import CoffeeShop.Execution
import CoffeeShop.Printing.Constraints

/-!
When the division of kitchen jobs breaks the state constraint.

The jobs are divided in the order of their identifiers.  The constraint rejects the part
of the first failed job that has a line to give, if the division gets that far.
-/

namespace CoffeeShop

open Transaction PrintStore PrintingService Database

/-- The jobs that `findKitchenJobs` finds. -/
def Database.kitchenJobs (database : Database) (orderItemIds : List Id) : List PrintJob :=
  let ticketIds := (database.sales.ticketItems.select fun row =>
    row.orderItemId ∈ orderItemIds).map (·.ticketId)
  (database.printing.jobs.select fun job => job.type = .kitchenTicket &&
    job.deduplicationKey.isKitchenOrder && job.kitchenTicketId.any (· ∈ ticketIds)).insertionSort
      fun left right => left.id ≤ right.id

namespace KitchenPrintSplit

/-- The payload of an order job that shows the quantities that the lines had. -/
def Reads (input : KitchenPrintSplit) (job : PrintJob) (payload : KitchenPrintPayload) : Prop :=
  job.payload.kitchenOrder? = some payload ∧ payload.items.all (matchesMove input.moves) = true

/-- Nothing of the job moves. -/
def Spares (input : KitchenPrintSplit) (job : PrintJob) : Prop :=
  job.status = .cancelled ∨
    ∃ payload, input.Reads job payload ∧ payload.items.filterMap (movedItem input.moves) = []

/-- A line of the job moves. -/
def Divides (input : KitchenPrintSplit) (job : PrintJob) : Prop :=
  ∃ payload, input.Reads job payload ∧ payload.items.filterMap (movedItem input.moves) ≠ []

/-- No job is the part that the destination has of the given one. -/
def Leaves (input : KitchenPrintSplit) (job : PrintJob) (store : PrintStore) : Prop :=
  ∀ other ∈ store.jobs,
    other.deduplicationKey ≠ .kitchenSplit job.id input.destinationSessionId

/-- The division goes on after the job. -/
def Passes (input : KitchenPrintSplit) (store : PrintStore) (job : PrintJob) : Prop :=
  input.Spares job ∨ (job.status = .pending ∧ input.Divides job ∧ input.Leaves job store)

/-- A line of the job moves, which has failed. -/
def DividesFailed (input : KitchenPrintSplit) (job : PrintJob) : Prop :=
  job.status = .failed ∧ input.Divides job

/-- The division reaches a failed job with a line that moves. -/
def ReachesFailed (input : KitchenPrintSplit) (database : Database) : Prop :=
  input.moves ≠ [] ∧ ∃ first job rest,
    database.kitchenJobs (input.moves.map (·.orderItemId)) = first ++ job :: rest ∧
      (∀ earlier ∈ first, input.Passes database.printing earlier) ∧ input.DividesFailed job

end KitchenPrintSplit

/-- `PrintJob_state_check`. -/
def stateCheckFailure : Failure := .constraint "PrintJob_state_check"

namespace FailedSplits

open KitchenPrintSplit

variable {input : KitchenPrintSplit} {job : PrintJob} {payload : KitchenPrintPayload}
variable {store after : PrintStore} {id : Id} {now : Timestamp}

@[simp] theorem stateCheckFailure_ne_conflict {message : String} :
    stateCheckFailure ≠ .conflict message := nofun

@[simp] theorem stateCheckFailure_ne_conflictWithCode {code message : String} :
    stateCheckFailure ≠ .conflictWithCode code message := nofun

section Statements

/-- The rest of a divided job. -/
def remainder (input : KitchenPrintSplit) (payload : KitchenPrintPayload) (row : PrintJob) :
    PrintJob :=
  { row with payload := .kitchen { payload with
      items := payload.items.map (remainingItem input.moves) } }

/-- The row that a job was read from can always get a new payload. -/
theorem commits_remainder {failure : Failure} (storable : store.Storable)
    (member : job ∈ store.jobs) :
    ∃ middle, Commits (rewriteJob job (remainder input payload) failure now) store () middle := by
  have accepted (other : PrintJob) (membership : other ∈ store.jobs.update
      (fun row => row.id = job.id && (row.status = job.status && row.updatedAt = job.updatedAt))
      (touched now (remainder input payload)) (touched_id now fun _ => rfl)) :
      other.stateCheck = true ∧ other.valuesCheck = true := by
    obtain ⟨row, inStore, rfl⟩ := Table.mem_update.mp membership
    split
    · exact storable row inStore
    · exact storable row inStore
  refine ⟨_, commits_updateJob.mpr ⟨?_, rfl, ?_, ?_⟩⟩
  · simp [Table.find?_of_mem member]
  · exact fun other membership => (accepted other membership).1
  · exact fun other membership => (accepted other membership).2

theorem aborts_insertJob :
    Aborts (insertJob job) store stateCheckFailure ↔ job.stateCheck = false := by
  constructor
  · intro aborted
    by_contra passes
    have accepted : job.stateCheck = true := by simpa using passes
    exact Constraints.insertJob_avoids accepted aborted rfl
  · intro rejected
    simp [insertJob, rejected, stateCheckFailure]

/-- The part takes the status of the job, but not the time of failure. -/
theorem stateCheck_splitJob (unprinted : isUnprinted job = true) :
    (splitJob input job payload id now).stateCheck = true ↔ job.status = .pending := by
  simp only [isUnprinted, Bool.or_eq_true, decide_eq_true_eq] at unprinted
  rcases unprinted with pending | failed
  · simp [splitJob, PrintJob.stateCheck, pending]
  · simp [splitJob, PrintJob.stateCheck, failed]

theorem commits_splitJobItems :
    Commits (splitJobItems input job id now) store () after ↔
      (input.Spares job ∧ after = store) ∨
        (job.status ≠ .cancelled ∧ ∃ payload, input.Reads job payload ∧
          payload.items.filterMap (movedItem input.moves) ≠ [] ∧ isUnprinted job = true ∧
            ∃ middle, Commits (rewriteJob job (remainder input payload)
                (.conflict "Kitchen print state changed. Retry splitting.") now) store () middle ∧
              Commits (insertJob (splitJob input job payload id now)) middle () after) := by
  unfold splitJobItems
  by_cases cancelled : job.status = .cancelled
  · rw [if_pos cancelled, commits_pure]
    simp [Spares, cancelled]
  · rw [if_neg cancelled]
    simp only [commits_bind, commits_orFail, commits_require, commits_when]
    constructor
    · rintro ⟨payload, _, ⟨order, rfl⟩, _, _, ⟨matching, rfl⟩, ⟨moved, rest⟩ | ⟨still, rfl⟩⟩
      · obtain ⟨_, _, ⟨unprinted, rfl⟩, _, middle, rewritten, inserted⟩ := rest
        exact .inr ⟨cancelled, payload, ⟨order, matching⟩, moved, unprinted, middle, rewritten,
          inserted⟩
      · exact .inl ⟨.inr ⟨payload, ⟨order, matching⟩, not_not.mp still⟩, rfl⟩
    · rintro (⟨dead | ⟨payload, ⟨order, matching⟩, still⟩, rfl⟩ |
        ⟨-, payload, ⟨order, matching⟩, moved, unprinted, middle, rewritten, inserted⟩)
      · exact (cancelled dead).elim
      · exact ⟨payload, after, ⟨order, rfl⟩, (), after, ⟨matching, rfl⟩,
          .inr ⟨not_not.mpr still, rfl⟩⟩
      · exact ⟨payload, store, ⟨order, rfl⟩, (), store, ⟨matching, rfl⟩,
          .inl ⟨moved, (), store, ⟨unprinted, rfl⟩, (), middle, rewritten, inserted⟩⟩

theorem aborts_splitJobItems (storable : store.Storable) (member : job ∈ store.jobs) :
    Aborts (splitJobItems input job id now) store stateCheckFailure ↔ input.DividesFailed job := by
  unfold splitJobItems
  by_cases cancelled : job.status = .cancelled
  · simp [DividesFailed, cancelled]
  · rw [if_neg cancelled]
    simp only [aborts_bind, aborts_orFail, aborts_require, aborts_when, commits_orFail,
      commits_require, stateCheckFailure_ne_conflict, stateCheckFailure_ne_conflictWithCode,
      and_false, false_or]
    constructor
    · rintro ⟨payload, _, ⟨order, rfl⟩, _, _, ⟨matching, rfl⟩, moved, _, _, ⟨unprinted, rfl⟩,
        rewriting | ⟨_, middle, -, inserting⟩⟩
      · obtain ⟨middle, rewritten⟩ := commits_remainder storable member
        exact (rewritten.not_aborts rewriting).elim
      · have rejected := aborts_insertJob.mp inserting
        refine ⟨?_, payload, ⟨order, matching⟩, moved⟩
        simp only [isUnprinted, Bool.or_eq_true, decide_eq_true_eq] at unprinted
        rcases unprinted with pending | failed
        · have accepted : (splitJob input job payload id now).stateCheck = true :=
            (stateCheck_splitJob (by simp [isUnprinted, pending])).mpr pending
          rw [rejected] at accepted
          cases accepted
        · exact failed
    · rintro ⟨failed, payload, ⟨order, matching⟩, moved⟩
      have unprinted : isUnprinted job = true := by simp [isUnprinted, failed]
      obtain ⟨middle, rewritten⟩ := commits_remainder storable member
      refine ⟨payload, store, ⟨order, rfl⟩, (), store, ⟨matching, rfl⟩, moved, (), store,
        ⟨unprinted, rfl⟩, .inr ⟨(), middle, rewritten, aborts_insertJob.mpr ?_⟩⟩
      simp [splitJob, PrintJob.stateCheck, failed]

end Statements

section Loop

variable {database next : Database} {initial middle : PrintStore} {jobs : List PrintJob}
variable {head other : PrintJob} {tail : List PrintJob}

/-- What `splitKitchenItems` does with one job. -/
def splitOne (input : KitchenPrintSplit) (now : Timestamp) (job : PrintJob) : Transact Unit := do
  let id ← freshId
  printingTx (splitJobItems input job id now)

theorem commits_splitOne :
    Commits (splitOne input now job) database () next ↔
      ∃ printing, Commits (splitJobItems input job database.nextId now) database.printing ()
          printing ∧
        next = { database with nextId := database.nextId + 1, printing } := by
  simp only [splitOne, commits_bind, commits_freshId, commits_printingTx]
  constructor
  · rintro ⟨_, _, ⟨rfl, rfl⟩, printing, split, rfl⟩
    exact ⟨printing, split, rfl⟩
  · rintro ⟨printing, split, rfl⟩
    exact ⟨_, _, ⟨rfl, rfl⟩, printing, split, rfl⟩

section Rewriting

variable {failure : Failure}

theorem mem_remainder
    (rewritten : Commits (rewriteJob job (remainder input payload) failure now) store () middle) :
    other ∈ middle.jobs ↔ ∃ row ∈ store.jobs, (if row.id = job.id && (row.status = job.status &&
      row.updatedAt = job.updatedAt) then touched now (remainder input payload) row else row) =
        other := by
  obtain ⟨-, rfl, -⟩ := commits_updateJob.mp rewritten
  have updated := @Table.mem_update _ _ _ store.jobs (fun row => row.id = job.id &&
    (row.status = job.status && row.updatedAt = job.updatedAt)) (touched now
      (remainder input payload)) (touched_id now fun _ => rfl) other
  exact updated

/-- The rewritten job keeps its key. -/
theorem leaves_remainder
    (rewritten : Commits (rewriteJob job (remainder input payload) failure now) store () middle) :
    input.Leaves other middle ↔ input.Leaves other store := by
  constructor
  · intro leaves row inStore
    have kept := leaves _ ((mem_remainder rewritten).mpr ⟨row, inStore, rfl⟩)
    split at kept
    · exact kept
    · exact kept
  · intro leaves row membership
    obtain ⟨old, inStore, rfl⟩ := (mem_remainder rewritten).mp membership
    split
    · exact leaves old inStore
    · exact leaves old inStore

/-- The other jobs stay as they are. -/
theorem mem_remainder_of_ne
    (rewritten : Commits (rewriteJob job (remainder input payload) failure now) store () middle)
    (inStore : other ∈ store.jobs) (differs : other.id ≠ job.id) : other ∈ middle.jobs :=
  (mem_remainder rewritten).mpr ⟨other, inStore, by simp [differs]⟩

theorem below_remainder {bound : Id} (below : store.Below bound)
    (rewritten : Commits (rewriteJob job (remainder input payload) failure now) store () middle) :
    middle.Below bound := by
  intro row membership
  obtain ⟨old, inStore, rfl⟩ := (mem_remainder rewritten).mp membership
  split
  · exact below old inStore
  · exact below old inStore

end Rewriting

/-- The jobs that are left are still as they were found. -/
structure Remaining (input : KitchenPrintSplit) (initial : PrintStore) (jobs : List PrintJob)
    (database : Database) : Prop where
  storable : database.StorableJobs
  drawn : database.JobsDrawn
  present : ∀ job ∈ jobs, job ∈ database.printing.jobs
  distinct : (jobs.map (·.id)).Nodup
  leaves : ∀ job ∈ jobs, input.Leaves job database.printing ↔ input.Leaves job initial

/-- A part of a pending job can be inserted if there is none yet. -/
theorem commits_part (values : job.valuesCheck = true) (pending : job.status = .pending)
    (leaves : input.Leaves job store) (below : store.Below id) :
    ∃ after, Commits (insertJob (splitJob input job payload id now)) store () after := by
  simp only [PrintJob.valuesCheck, Bool.and_eq_true, decide_eq_true_eq] at values
  have free : (store.jobs.insert? (splitJob input job payload id now)).isSome = true :=
    Table.insert?_isSome.mpr fun row inStore => Nat.ne_of_lt (below row inStore)
  obtain ⟨table, inserted⟩ := Option.isSome_iff_exists.mp free
  refine ⟨_, commits_insertJob.mpr ⟨?_, ?_, leaves, table, inserted, rfl⟩⟩
  · simp [splitJob, PrintJob.stateCheck, pending]
  · simp [splitJob, PrintJob.valuesCheck, values]

theorem aborts_splitOne (remaining : Remaining input initial (head :: tail) database) :
    Aborts (splitOne input now head) database stateCheckFailure ↔ input.DividesFailed head := by
  have member := remaining.present head List.mem_cons_self
  have within (id : Id) : Aborts (splitJobItems input head id now) database.printing
      stateCheckFailure ↔ input.DividesFailed head :=
    aborts_splitJobItems remaining.storable member
  simp only [splitOne, printingTx, aborts_bind, aborts_within, commits_freshId]
  constructor
  · rintro (drawing | ⟨_, _, ⟨rfl, rfl⟩, rejected⟩)
    · simp [freshId] at drawing
    · exact (within database.nextId).mp rejected
  · intro divides
    exact .inr ⟨_, _, ⟨rfl, rfl⟩, (within database.nextId).mpr divides⟩

theorem exists_commits_splitOne (remaining : Remaining input initial (head :: tail) database) :
    (∃ next, Commits (splitOne input now head) database () next) ↔ input.Passes initial head := by
  have member := remaining.present head List.mem_cons_self
  have leavesHead := remaining.leaves head List.mem_cons_self
  constructor
  · rintro ⟨next, committed⟩
    obtain ⟨printing, split, rfl⟩ := commits_splitOne.mp committed
    rcases commits_splitJobItems.mp split with
      ⟨spares, -⟩ | ⟨-, payload, reads, moved, unprinted, middle, rewritten, inserted⟩
    · exact .inl spares
    · obtain ⟨states, -, free, -⟩ := commits_insertJob.mp inserted
      refine .inr ⟨(stateCheck_splitJob unprinted).mp states, ⟨payload, reads, moved⟩, ?_⟩
      exact leavesHead.mp ((leaves_remainder rewritten).mp free)
  · rintro (spares | ⟨pending, ⟨payload, reads, moved⟩, leaves⟩)
    · exact ⟨_, commits_splitOne.mpr ⟨_, commits_splitJobItems.mpr (.inl ⟨spares, rfl⟩), rfl⟩⟩
    · obtain ⟨middle, rewritten⟩ := commits_remainder remaining.storable member
      have values := (remaining.storable head member).2
      have free := (leaves_remainder rewritten).mpr (leavesHead.mpr leaves)
      obtain ⟨after, inserted⟩ := commits_part values pending free
        (below_remainder remaining.drawn rewritten)
      refine ⟨_, commits_splitOne.mpr ⟨after, commits_splitJobItems.mpr (.inr ⟨?_, payload, reads,
        moved, ?_, middle, rewritten, inserted⟩), rfl⟩⟩
      · simp [pending]
      · simp [isUnprinted, pending]

instance keepsSplitJobItems : Preserves Storable (splitJobItems input job id now) := by
  dsimp only [splitJobItems, rewriteJob]
  infer_instance

theorem remaining_splitOne (remaining : Remaining input initial (head :: tail) database)
    (committed : Commits (splitOne input now head) database () next) :
    Remaining input initial tail next := by
  have distinct := remaining.distinct
  rw [List.map_cons, List.nodup_cons] at distinct
  have differs (job : PrintJob) (inTail : job ∈ tail) : job.id ≠ head.id := fun same =>
    distinct.1 (List.mem_map.mpr ⟨job, inTail, same⟩)
  have storable : next.StorableJobs := by
    have keeps : Preserves StorableJobs (splitOne input now head) := by
      unfold splitOne
      infer_instance
    exact keeps.step committed remaining.storable
  have drawn : next.JobsDrawn := by
    have keeps : Preserves JobsDrawn (splitOne input now head) :=
      JobIds.drawing fun id => JobIds.inserting fun bound drawn => JobIds.splitJobItems drawn
    exact keeps.step committed remaining.drawn
  obtain ⟨printing, split, rfl⟩ := commits_splitOne.mp committed
  rcases commits_splitJobItems.mp split with
    ⟨-, rfl⟩ | ⟨-, payload, -, -, -, middle, rewritten, inserted⟩
  · exact ⟨storable, drawn, fun job inTail => remaining.present job (List.mem_cons_of_mem head inTail),
      distinct.2, fun job inTail => remaining.leaves job (List.mem_cons_of_mem head inTail)⟩
  · obtain ⟨-, -, -, table, added, rfl⟩ := commits_insertJob.mp inserted
    refine ⟨storable, drawn, fun job inTail => ?_, distinct.2, fun job inTail => ?_⟩
    · have inStore := remaining.present job (List.mem_cons_of_mem head inTail)
      exact (Table.mem_insert? added).mpr
        (.inl (mem_remainder_of_ne rewritten inStore (differs job inTail)))
    · have unmoved : input.Leaves job middle ↔ input.Leaves job _ := leaves_remainder rewritten
      rw [← remaining.leaves job (List.mem_cons_of_mem head inTail), ← unmoved]
      constructor
      · intro leaves row membership
        exact leaves row ((Table.mem_insert? added).mpr (.inl membership))
      · intro leaves row membership
        rcases (Table.mem_insert? added).mp membership with earlier | rfl
        · exact leaves row earlier
        · simpa [splitJob] using (differs job inTail).symm

theorem commits_findKitchenJobs {orderItemIds : List Id} {found : List PrintJob} :
    Commits (findKitchenJobs orderItemIds) database found next ↔
      found = database.kitchenJobs orderItemIds ∧ next = database := by
  simp only [findKitchenJobs, commits_bind, commits_get, commits_printingTx, commits_findMany,
    commits_pure]
  constructor
  · rintro ⟨_, _, ⟨rfl, rfl⟩, _, _, ⟨_, ⟨rfl, rfl⟩, rfl⟩, rfl, rfl⟩
    exact ⟨rfl, rfl⟩
  · rintro ⟨rfl, rfl⟩
    exact ⟨_, _, ⟨rfl, rfl⟩, _, _, ⟨_, ⟨rfl, rfl⟩, rfl⟩, rfl, rfl⟩

/-- Nothing has changed when the division starts. -/
theorem remaining_kitchenJobs (reachable : Reachable database) (orderItemIds : List Id) :
    Remaining input database.printing (database.kitchenJobs orderItemIds) database where
  storable := reachable.storableJobs
  drawn := reachable.jobsDrawn
  present job found := by
    have selected := (List.mem_insertionSort _).mp found
    exact (Table.mem_select.mp selected).1
  distinct := by
    refine ((List.perm_insertionSort _ _).map PrintJob.id).nodup_iff.mpr ?_
    exact Table.nodup_select _ _
  leaves _ _ := Iff.rfl

end Loop

/-- Only the part of a failed job is rejected. -/
theorem aborts_splitKitchenItems {database : Database} (reachable : Reachable database) :
    Aborts (splitKitchenItems input now) database stateCheckFailure ↔
      input.ReachesFailed database := by
  unfold splitKitchenItems
  by_cases still : input.moves = []
  · simp [still, ReachesFailed]
  · rw [if_neg still]
    have loop (jobs : List PrintJob)
        (start : Remaining input database.printing jobs database) :
        Aborts (forEach jobs (splitOne input now)) database stateCheckFailure ↔
          ∃ first job rest, jobs = first ++ job :: rest ∧
            (∀ earlier ∈ first, input.Passes database.printing earlier) ∧ input.DividesFailed job :=
      aborts_forEach_iff (fun _ _ _ remaining => aborts_splitOne remaining)
        (fun _ _ _ remaining => exists_commits_splitOne remaining)
        (fun _ _ _ _ remaining => remaining_splitOne remaining) start
    rw [aborts_bind]
    constructor
    · rintro (searching | ⟨jobs, middle, found, divided⟩)
      · simp [findKitchenJobs, printingTx] at searching
      · obtain ⟨rfl, rfl⟩ := commits_findKitchenJobs.mp found
        exact ⟨still, (loop _ (remaining_kitchenJobs reachable _)).mp divided⟩
    · rintro ⟨-, reached⟩
      refine .inr ⟨_, database, commits_findKitchenJobs.mpr ⟨rfl, rfl⟩, ?_⟩
      exact (loop _ (remaining_kitchenJobs reachable _)).mpr reached

end FailedSplits

/-- The operations of the printing service and the cancellations of online orders. -/
inductive PrintOperation where
  | command (asked : PrintCommand)
  | enqueueKitchenTicket (input : KitchenTicketJob)
  | splitKitchenItems (input : KitchenPrintSplit)
  | cancelKitchenItems (orderItemIds : List Id) (employeeId : Id) (reason : String)
  | cancelPublicRequest (id : Id)
  | cancelAccepted (id employeeId : Id) (reason : String)
  | markNoShow (id employeeId : Id)

namespace PrintOperation

def execute (now : Timestamp) : PrintOperation → Transact Unit
  | .command asked => asked.execute now
  | .enqueueKitchenTicket input => PrintingService.enqueueKitchenTicket input now
  | .splitKitchenItems input => PrintingService.splitKitchenItems input now
  | .cancelKitchenItems orderItemIds employeeId reason =>
      PrintingService.cancelKitchenItems orderItemIds employeeId reason now
  | .cancelPublicRequest id => OnlineOrders.cancelPublicRequest id now
  | .cancelAccepted id employeeId reason => OnlineOrders.cancelAccepted id employeeId reason now
  | .markNoShow id employeeId => OnlineOrders.markNoShow id employeeId now

/-- The operation divides a failed job. -/
def ReachesFailed (database : Database) : PrintOperation → Prop
  | .splitKitchenItems input => input.ReachesFailed database
  | _ => False

variable {database : Database} {operation : PrintOperation} {now : Timestamp}

/-- A statement that commits has left no row that the constraint rejects. -/
theorem storableJobs_of_commits (reachable : Reachable database) {after : Database}
    (committed : Commits (operation.execute now) database () after) : after.StorableJobs := by
  have next (command : Command) (ran : Commits (command.execute now) database () after) :
      after.StorableJobs := by
    have reached : Reachable after := reachable.tail (.commit command now ran)
    exact reached.storableJobs
  cases operation with
  | command asked => exact next (.print asked) committed
  | cancelPublicRequest id => exact next (.online (.cancelPublicRequest id)) committed
  | cancelAccepted id employeeId reason =>
      exact next (.online (.cancelAccepted id employeeId reason)) committed
  | markNoShow id employeeId => exact next (.online (.markNoShow id employeeId)) committed
  | enqueueKitchenTicket input =>
      have keeps : Preserves StorableJobs (PrintingService.enqueueKitchenTicket input now) := by
        unfold PrintingService.enqueueKitchenTicket
        infer_instance
      exact keeps.step committed reachable.storableJobs
  | splitKitchenItems input =>
      have keeps : Preserves StorableJobs (PrintingService.splitKitchenItems input now) := by
        unfold PrintingService.splitKitchenItems
        infer_instance
      exact keeps.step committed reachable.storableJobs
  | cancelKitchenItems orderItemIds employeeId reason =>
      have keeps : Preserves StorableJobs
          (PrintingService.cancelKitchenItems orderItemIds employeeId reason now) := inferInstance
      exact keeps.step committed reachable.storableJobs

/-- The constraint rejects an operation exactly if it divides a failed job. -/
theorem aborts_stateCheck (reachable : Reachable database) :
    Aborts (operation.execute now) database stateCheckFailure ↔
      operation.ReachesFailed database := by
  have storable := reachable.storableJobs
  have never {program : Transact Unit} (avoids : Avoids StorableJobs IsStateCheck program) :
      Aborts program database stateCheckFailure ↔ False :=
    iff_false_intro fun aborted => avoids.avoids storable aborted rfl
  cases operation with
  | command asked => exact never Constraints.printCommand
  | enqueueKitchenTicket input => exact never Constraints.enqueueKitchenTicket
  | splitKitchenItems input => exact FailedSplits.aborts_splitKitchenItems reachable
  | cancelKitchenItems orderItemIds employeeId reason => exact never Constraints.cancelKitchenItems
  | cancelPublicRequest id => exact never Constraints.cancelPublicRequest
  | cancelAccepted id employeeId reason => exact never Constraints.cancelAcceptedRequest
  | markNoShow id employeeId => exact never Constraints.cancelAcceptedRequest

/-- The operation is not rejected, and leaves only rows that the constraint accepts. -/
def WritesStorable (operation : PrintOperation) (database : Database) (now : Timestamp) : Prop :=
  ¬Aborts (operation.execute now) database stateCheckFailure ∧
    ∀ after, Commits (operation.execute now) database () after → after.StorableJobs

/-- Every write is storable, except the part of a failed job. -/
theorem writesStorable_iff (reachable : Reachable database) (operation : PrintOperation)
    (now : Timestamp) :
    operation.WritesStorable database now ↔ ¬operation.ReachesFailed database := by
  unfold WritesStorable
  rw [aborts_stateCheck reachable]
  exact and_iff_left fun after committed => storableJobs_of_commits reachable committed

/-- The failed job is printed again. -/
def requeue : PrintCommand := .retryJob 6 0 none

def requeued : Database := Database.jammed.perform (.print requeue) 13

/-- One of the two cups on the ticket moves. -/
def cupDivision : KitchenPrintSplit where
  employeeId := 0
  destinationSessionId := 8
  destinationTableName := "A2"
  moves := [{
    orderItemId := 4
    movedOrderItemId := 9
    originalQuantity := 2
    quantityToMove := 1 }]

/-- A failed job is queued again, and the queued job is divided. -/
theorem writesStorable_iff_requeued :
    (PrintOperation.command requeue).WritesStorable Database.jammed 13 ∧
      ∃ after, Commits ((PrintOperation.splitKitchenItems cupDivision).execute 14) requeued () after ∧
        after.printing.jobs.rows.length = 2 ∧ after.StorableJobs := by
  have retried := (writesStorable_iff Reachable.jammed (.command requeue) 13).mpr
    fun reached => reached
  have reachable : Reachable requeued := Reachable.jammed.perform _ 13
  have unfailed : ∀ job ∈ requeued.kitchenJobs [4], job.status ≠ .failed := by decide +kernel
  obtain ⟨_, after, committed, two⟩ := @exists_commits_of_any _ _ _
    ((PrintOperation.splitKitchenItems cupDivision).execute 14) requeued
    (fun outcome => outcome.2.printing.jobs.rows.length = 2) (by decide +kernel)
  have divided := (writesStorable_iff reachable (.splitKitchenItems cupDivision) 14).mpr ?_
  · exact ⟨retried, after, committed, of_decide_eq_true two, divided.2 after committed⟩
  rintro ⟨-, first, job, rest, found, -, failed, -⟩
  have listed : job ∈ requeued.kitchenJobs [4] := by
    change requeued.kitchenJobs [4] = _ at found
    simp [found]
  exact unfailed job listed failed

/-- Half of a line whose ticket jammed moves to another table. -/
def jammedSplit : SplitOrderSessionInput where
  sourceOrderSessionId := 3
  destinationTableId := 2
  itemsToMove := [{
    orderItemId := 4
    quantityToMove := 1
    expectedOriginalQuantity := 2
    quantityToMove_pos := by decide }]
  items_nodup := by decide

/-- The constraint rejects the division of the failed job, and with it the whole command. -/
theorem exists_not_writesStorable :
    ∃ database, Reachable database ∧
      (∃ input : KitchenPrintSplit,
        ¬(PrintOperation.splitKitchenItems input).WritesStorable database 13) ∧
      Aborts ((Command.order (.splitTable jammedSplit 0)).execute 13) database
        stateCheckFailure := by
  refine ⟨Database.jammed, Reachable.jammed, ⟨cupDivision, fun storable => storable.1 ?_⟩, ?_⟩
  · decide +kernel
  · decide +kernel

end PrintOperation

end CoffeeShop
