import CoffeeShop.Durable.OutboxDispatcher

/-!
Locks of the outbox over whole runs.

Every write of a dispatcher compares the status and the lock of the row.  Locks are
never drawn twice, so a claim that the row no longer carries can do nothing to it, and
the attempts that a delivery has read are those of the row as long as its lock is there.
-/

namespace CoffeeShop

open Transaction

namespace OutboxDispatcher

variable {before after : Outbox} {actor : Actor} {now : Timestamp}

/-- How a step may change one row. -/
inductive RowStep (before after : Outbox) (now : Timestamp) :
    Actor → OutboxEvent → OutboxEvent → Prop where
  | kept {actor : Actor} {row : OutboxEvent} : RowStep before after now actor row row
  | claimed {worker : Worker} {row : OutboxEvent} (idle : before.tasks worker = .idle)
      (pending : row.status = .pending) (drawn : before.nextLock < after.nextLock) :
      RowStep before after now (.worker worker) row { row with
        status := .enqueued, lockedAt := some now, lockedBy := some before.nextLock }
  | leased {worker : Worker} {row event : OutboxEvent} {job : Option Job}
      (held : before.tasks worker = .leasing event job) (own : row.id = event.id)
      (status : row.status = event.status) (lock : row.lockedBy = event.lockedBy)
      (attempts : row.attempts = event.attempts) (drawn : before.nextLock < after.nextLock) :
      RowStep before after now (.worker worker) row { row with
        status := .processing, lockedBy := some before.nextLock, lockedAt := some now }
  | renewed {worker : Worker} {row : OutboxEvent} {event : ClaimedOutboxEvent}
      (held : before.tasks worker = .renewing event) (lease : isLeased event row = true) :
      RowStep before after now (.worker worker) row { row with lockedAt := some now }
  | published {worker : Worker} {row : OutboxEvent} {event : ClaimedOutboxEvent}
      {job : Option Job} (held : before.tasks worker = .settling event job .publish)
      (lease : isLeased event row = true) :
      RowStep before after now (.worker worker) row { row with
        status := .published
        publishedAt := some now
        lockedAt := none
        lockedBy := none
        lastError := none
        lastErrorCode := none
        lastFailedAt := none }
  | failed {worker : Worker} {row : OutboxEvent} {event : ClaimedOutboxEvent} {job : Option Job}
      {error : OutboxError} {attempts : Nat} {deadLetter : Bool} {availableAt : Timestamp}
      (held : before.tasks worker = .settling event job (.fail error attempts deadLetter))
      (lease : isLeased event row = true) :
      RowStep before after now (.worker worker) row { row with
        status := if deadLetter then .deadLetter else .pending
        attempts
        lastError := some error.message
        lastErrorCode := some (outboxFailureCode error)
        lastFailedAt := some now
        lockedAt := none
        lockedBy := none
        availableAt }
  | released {worker : Worker} {row : OutboxEvent} {event : ClaimedOutboxEvent}
      {text code : String} {availableAt : Timestamp}
      (claim : event ∈ (before.tasks worker).claims) (own : row.id = event.id)
      (claimed : row.isClaimed = true) (lock : row.lockedBy = some event.lockedBy)
      (unfailed : ∀ event job error attempts deadLetter,
        before.tasks worker ≠ .settling event job (.fail error attempts deadLetter)) :
      RowStep before after now (.worker worker) row { row with
        status := .pending
        lockedAt := none
        lockedBy := none
        lastError := some text
        lastErrorCode := some code
        lastFailedAt := some now
        availableAt }
  | recovered {worker : Worker} {row : OutboxEvent} (idle : before.tasks worker = .idle)
      (claimed : row.isClaimed = true) :
      RowStep before after now (.worker worker) row { row with
        status := .pending, lockedAt := none, lockedBy := none }
  | retried {row : OutboxEvent} {employeeId : Id} (deadLetter : row.status = .deadLetter) :
      RowStep before after now (.operator row.id employeeId row.availableAt) row { row with
        status := .pending
        attempts := 0
        availableAt := now
        lockedAt := none
        lockedBy := none }

/-- The housekeeping may drop the row. -/
def Droppable (now : Timestamp) (row : OutboxEvent) : Prop :=
  row.status = .published ∧ row.publishedAt.any (· + 30 * dayMs < now) = true

/-- The event waits for its first delivery. -/
structure Fresh (row : OutboxEvent) : Prop where
  status : row.status = .pending
  attempts : row.attempts = 0
  lockedAt : row.lockedAt = none
  lockedBy : row.lockedBy = none
  publishedAt : row.publishedAt = none

/-- How a step may change the table. -/
structure Rewrites (before after : Outbox) (now : Timestamp) (actor : Actor) : Prop where
  changed : ∀ id row, before.store.events.find? id = some row →
    (∃ next, after.store.events.find? id = some next ∧
      RowStep before after now actor row next) ∨
    (after.store.events.find? id = none ∧ Droppable now row ∧
      ∃ worker, actor = .worker worker ∧ before.tasks worker = .idle)
  inserted : ∀ id next, before.store.events.find? id = none →
    after.store.events.find? id = some next → Fresh next ∧ actor = .service

namespace Rewrites

theorem unchanged (same : after.store.events = before.store.events) :
    Rewrites before after now actor := by
  constructor
  · intro id row found
    rw [← same] at found
    exact .inl ⟨row, found, .kept⟩
  · intro id next absent found
    rw [same, absent] at found
    cases found

theorem updated {condition : OutboxEvent → Bool} {change : OutboxEvent → OutboxEvent}
    (keeps : ∀ row, (change row).id = row.id)
    (same : after.store.events = before.store.events.update condition change keeps)
    (rows : ∀ row ∈ before.store.events, condition row = true →
      RowStep before after now actor row (change row)) : Rewrites before after now actor := by
  constructor
  · intro id row found
    left
    rw [same, Table.find?_update, found, Option.map_some]
    refine ⟨_, rfl, ?_⟩
    split
    · rename_i holds
      exact rows row (Table.mem_of_find? found) holds
    · exact .kept
  · intro id next absent found
    rw [same, Table.find?_update, absent] at found
    cases found

end Rewrites

theorem own_of_isLeased {event : ClaimedOutboxEvent} {row : OutboxEvent}
    (lease : isLeased event row = true) :
    row.id = event.id ∧ row.status = .processing ∧ row.lockedBy = some event.lockedBy := by
  simp only [isLeased, Bool.and_eq_true, decide_eq_true_eq] at lease
  exact ⟨lease.1.1, lease.1.2, lease.2⟩

theorem Rewrites.release {worker : Worker} {event : ClaimedOutboxEvent} {error : OutboxError}
    {delayMs count : Nat} {store : OutboxStore}
    (ran : Commits (release event error delayMs now) before.store count store)
    (claim : event ∈ (before.tasks worker).claims) (same : after.store = store)
    (unfailed : ∀ event job error attempts deadLetter,
      before.tasks worker ≠ .settling event job (.fail error attempts deadLetter)) :
    Rewrites before after now (.worker worker) := by
  obtain ⟨-, rfl⟩ := commits_updateMany.mp ran
  apply Rewrites.updated (by intro; rfl) (congrArg OutboxStore.events same)
  intro row _ holds
  simp only [Bool.and_eq_true, decide_eq_true_eq] at holds
  exact .released claim holds.1.1 holds.1.2 holds.2 unfailed

theorem Rewrites.markPublished {worker : Worker} {event : ClaimedOutboxEvent} {job : Option Job}
    {count : Nat} {store : OutboxStore}
    (ran : Commits (markPublished event now) before.store count store)
    (held : before.tasks worker = .settling event job .publish) (same : after.store = store) :
    Rewrites before after now (.worker worker) := by
  obtain ⟨-, rfl⟩ := commits_updateMany.mp ran
  apply Rewrites.updated (by intro; rfl) (congrArg OutboxStore.events same)
  intro row _ lease
  exact .published held lease

theorem mem_candidates {events : Table OutboxEvent.id} {locked : Id → Bool} {row : OutboxEvent}
    (member : row ∈ events) (chosen : row.id ∈ candidates (events.select (isReady now)) locked) :
    row.status = .pending := by
  obtain ⟨ready, taken, same⟩ := List.mem_map.mp chosen
  have sorted := List.mem_of_mem_take taken
  have filtered := (List.mem_insertionSort _).mp sorted
  obtain ⟨inStore, isReady⟩ := Table.mem_select.mp (List.mem_of_mem_filter filtered)
  have equal : ready = row := Table.eq_of_key_eq inStore member same
  simp only [OutboxDispatcher.isReady, Bool.and_eq_true, decide_eq_true_eq] at isReady
  rw [← equal]
  exact isReady.1

theorem Step.rewrites (step : Step now actor before after) : Rewrites before after now actor := by
  cases step with
  | enqueued id eventName payload ran =>
      obtain ⟨next, inserted, rfl⟩ := commits_create.mp ran
      constructor
      · intro other row found
        left
        refine ⟨row, ?_, .kept⟩
        simp only [outboxEvent_set_events, Table.find?_insert? inserted]
        have differs : id ≠ other := by
          rintro rfl
          have absent := Table.insert?_isSome.mp (Option.isSome_of_eq_some inserted)
          exact absent row (Table.mem_of_find? found) (Table.find?_key found)
        rw [if_neg differs]
        exact found
      · intro other next absent found
        simp only [outboxEvent_set_events, Table.find?_insert? inserted] at found
        split at found
        · cases found
          exact ⟨⟨rfl, rfl, rfl, rfl, rfl⟩, rfl⟩
        · rw [outboxEvent_get, absent] at found
          cases found
  | retried id employeeId expectedAvailableAt ran =>
      simp only [ManagementExceptions.retryOutboxEvent, commits_bind, commits_findFirstOrFail,
        commits_findUniqueOrFail] at ran
      obtain ⟨_, _, ⟨-, rfl⟩, _, _, ⟨-, rfl⟩, written⟩ := ran
      obtain ⟨-, rfl⟩ := commits_updateExpecting.mp written
      apply Rewrites.updated (by intro; rfl) rfl
      intro row _ holds
      simp only [Bool.and_eq_true, decide_eq_true_eq] at holds
      obtain ⟨rfl, deadLetter, rfl⟩ := holds
      exact .retried deadLetter
  | recovered idle ran =>
      obtain ⟨-, rfl⟩ := commits_updateMany.mp ran
      apply Rewrites.updated (by intro; rfl) rfl
      intro row _ holds
      exact .recovered idle (Bool.and_eq_true_iff.mp holds).1
  | dropped batch idle ran =>
      obtain ⟨-, rfl⟩ := commits_deleteMany.mp ran
      constructor
      · intro id row found
        simp only [outboxEvent_set_events, outboxEvent_get, Table.find?_delete, found]
        by_cases dropped : (batch row.id && row.status = .published &&
            row.publishedAt.any (· + 30 * dayMs < now)) = true
        · right
          have holds := dropped
          simp only [Bool.and_eq_true, decide_eq_true_eq] at holds
          exact ⟨by simp [Option.filter, dropped], ⟨holds.1.2, holds.2⟩, _, rfl, idle⟩
        · left
          exact ⟨row, by simp [Option.filter, dropped], .kept⟩
      · intro id next absent found
        simp only [outboxEvent_set_events, outboxEvent_get, Table.find?_delete, absent] at found
        cases found
  | claimed locked idle ran =>
      simp only [claimBatch, commits_bind, commits_findMany, commits_updateMany,
        commits_pure] at ran
      obtain ⟨_, _, ⟨rfl, rfl⟩, _, _, ⟨-, rfl⟩, _, _, ⟨-, rfl⟩, -, rfl⟩ := ran
      apply Rewrites.updated (by intro; rfl) rfl
      intro row member chosen
      exact .claimed idle (mem_candidates member (of_decide_eq_true chosen)) (Nat.lt_succ_self _)
  | waits held ran =>
      refine Rewrites.release ran ?_ rfl ?_
      · rw [held]
        exact List.mem_cons_self
      · simp [held]
  | refused error held ran =>
      refine Rewrites.release ran ?_ rfl ?_
      · rw [held]
        exact List.mem_cons_self
      · simp [held]
  | releasedUnheard error held ran =>
      refine Rewrites.release ran ?_ rfl ?_
      · rw [held]
        exact List.mem_cons_self
      · simp [held]
  | @handsBack _ _ _ _ events stopping held ran =>
      obtain ⟨-, rfl⟩ := commits_updateMany.mp ran
      apply Rewrites.updated (by intro; rfl) rfl
      intro row _ holds
      simp only [Bool.and_eq_true, decide_eq_true_eq, List.any_eq_true] at holds
      obtain ⟨enqueued, event, member, own, lock⟩ := holds
      refine .released ?_ own (by simp [OutboxEvent.isClaimed, enqueued]) lock (by simp [held])
      rw [held]
      exact member
  | leases held ran =>
      obtain ⟨-, rfl⟩ := commits_updateMany.mp ran
      apply Rewrites.updated (by intro; rfl) rfl
      intro row _ holds
      simp only [Bool.and_eq_true, decide_eq_true_eq] at holds
      obtain ⟨own, ⟨⟨⟨status, lock⟩, attempts⟩, -⟩, -⟩ := holds
      exact .leased held own status lock attempts (Nat.lt_succ_self _)
  | @settles _ _ _ _ event job settlement held ran =>
      cases settlement with
      | publish => exact .markPublished ran held rfl
      | fail error attempts deadLetter =>
          obtain ⟨-, rfl⟩ := commits_updateMany.mp ran
          apply Rewrites.updated (by intro; rfl) rfl
          intro row _ lease
          exact .failed held lease
      | defer error retryAfterMs =>
          refine Rewrites.release ran ?_ rfl ?_
          · rw [held]
            exact List.mem_cons_self
          · simp [held]
  | publishedUnheard error held ran => exact .markPublished ran held rfl
  | renews held ran =>
      obtain ⟨-, rfl⟩ := commits_updateMany.mp ran
      apply Rewrites.updated (by intro; rfl) rfl
      intro row _ lease
      exact .renewed held lease
  | delivers answer held remaining =>
      cases answer with
      | ok => exact .unchanged rfl
      | error => exact .unchanged rfl
  | _ => exact .unchanged rfl

/-- What holds of every row. -/
structure RowValid (nextLock : Lock) (row : OutboxEvent) : Prop where
  bounded : row.attempts ≤ maxAttempts
  exhausted : row.attempts = maxAttempts → row.status = .deadLetter
  held : row.isClaimed = true → row.lockedAt.isSome = true
  issued : ∀ lock, row.lockedBy = some lock → lock < nextLock
  stored : row.stateCheck = true

/-- The claim of the delivery that the task belongs to. -/
def Task.lease : Task → Option ClaimedOutboxEvent
  | .delivering event _ => some event
  | .settling event _ _ => some event
  | _ => none

/-- A failure counts one attempt, unless the budget was exhausted before the delivery. -/
def Counts (event : ClaimedOutboxEvent) (attempts : Nat) (deadLetter : Bool) : Prop :=
  (maxAttempts ≤ event.attempts ∧ attempts = event.attempts ∧ deadLetter = true) ∨
    (event.attempts < maxAttempts ∧ attempts = event.attempts + 1 ∧
      (attempts = maxAttempts → deadLetter = true))

/-- What a delivery is about to write follows from how it ended. -/
def Task.Settled (delivered : List (Id × Lock)) : Task → Prop
  | .settling event _ .publish =>
      event.attempts < maxAttempts ∧ (event.id, event.lockedBy) ∈ delivered
  | .settling event _ (.fail _ attempts deadLetter) => Counts event attempts deadLetter
  | .leasing event _ => event.status = .enqueued ∨ event.status = .pending
  | .delivering _ _ | .settling _ _ (.defer _ _) | .idle | .dispatching _ | .enqueuing _ _
  | .interrupted _ | .renewing _ => True

/-- What holds of every task. -/
structure TaskValid (outbox : Outbox) (task : Task) : Prop where
  issued : ∀ event ∈ task.claims, event.lockedBy < outbox.nextLock
  shared : ∀ first ∈ task.claims, ∀ second ∈ task.claims, first.lockedBy = second.lockedBy
  current : ∀ event, task.lease = some event → ∀ row,
    outbox.store.events.find? event.id = some row → row.lockedBy = some event.lockedBy →
      row.attempts = event.attempts
  settled : task.Settled outbox.delivered

structure Valid (outbox : Outbox) : Prop where
  rows : ∀ row ∈ outbox.store.events, RowValid outbox.nextLock row
  tasks : ∀ worker, TaskValid outbox (outbox.tasks worker)

namespace RowStep

variable {row next : OutboxEvent}

/-- A lock that was drawn before is on the row only if it was there, with the same attempts. -/
theorem lockedBy_of_issued (taken : RowStep before after now actor row next) {lock : Lock}
    (issued : lock < before.nextLock) (locked : next.lockedBy = some lock) :
    row.lockedBy = some lock ∧ next.attempts = row.attempts := by
  cases taken with
  | kept => exact ⟨locked, rfl⟩
  | claimed | leased =>
      cases locked
      exact (lt_irrefl _ issued).elim
  | renewed => exact ⟨locked, rfl⟩
  | _ => cases locked

theorem valid (taken : RowStep before after now actor row next) (valid : Valid before)
    (found : before.store.events.find? row.id = some row)
    (later : before.nextLock ≤ after.nextLock) : RowValid after.nextLock next := by
  have old := valid.rows row (Table.mem_of_find? found)
  have unlocked (claimed : row.isClaimed = true) : row.attempts ≠ maxAttempts := by
    intro exhausted
    have dead := old.exhausted exhausted
    simp [OutboxEvent.isClaimed, dead] at claimed
  have unpublished (claimed : row.isClaimed = true) : row.publishedAt = none := by
    have stored := old.stored
    simp only [OutboxEvent.isClaimed, Bool.or_eq_true, decide_eq_true_eq] at claimed
    rcases claimed with status | status
    · simpa [OutboxEvent.stateCheck, status] using stored
    · simpa [OutboxEvent.stateCheck, status] using stored
  cases taken with
  | kept => exact { old with issued := fun lock locked => (old.issued lock locked).trans_le later }
  | claimed idle pending drawn =>
      have stored := old.stored
      refine ⟨old.bounded, ?_, fun _ => rfl, ?_, ?_⟩
      · intro exhausted
        rw [old.exhausted exhausted] at pending
        cases pending
      · rintro _ ⟨⟩
        exact drawn
      · simpa [OutboxEvent.stateCheck, pending] using stored
  | @leased worker _ event job held own status lock attempts drawn =>
      have settled := (valid.tasks worker).settled
      rw [held] at settled
      have deliverable : row.status = .enqueued ∨ row.status = .pending := status ▸ settled
      have stored := old.stored
      refine ⟨old.bounded, ?_, fun _ => rfl, ?_, ?_⟩
      · intro exhausted
        rcases deliverable with status | status
        · exact nomatch status.symm.trans (old.exhausted exhausted)
        · exact nomatch status.symm.trans (old.exhausted exhausted)
      · rintro _ ⟨⟩
        exact drawn
      · rcases deliverable with status | status
        · simpa [OutboxEvent.stateCheck, status] using stored
        · simpa [OutboxEvent.stateCheck, status] using stored
  | renewed held lease =>
      obtain ⟨own, status, lock⟩ := own_of_isLeased lease
      refine ⟨old.bounded, old.exhausted, fun _ => rfl, ?_, old.stored⟩
      intro lock locked
      exact (old.issued lock locked).trans_le later
  | published held lease =>
      obtain ⟨own, status, lock⟩ := own_of_isLeased lease
      refine ⟨old.bounded, ?_, ?_, ?_, rfl⟩
      · intro exhausted
        exact (unlocked (by simp [OutboxEvent.isClaimed, status]) exhausted).elim
      · intro claimed
        cases claimed
      · rintro _ ⟨⟩
  | @failed worker _ event job error attempts deadLetter availableAt held lease =>
      obtain ⟨own, status, lock⟩ := own_of_isLeased lease
      have task := valid.tasks worker
      rw [held] at task
      have current : row.attempts = event.attempts := task.current event rfl row (own ▸ found) lock
      have counts : Counts event attempts deadLetter := task.settled
      have unpublished := unpublished (by simp [OutboxEvent.isClaimed, status])
      have unlocked := unlocked (by simp [OutboxEvent.isClaimed, status])
      have bounded := old.bounded
      refine ⟨?_, ?_, ?_, ?_, ?_⟩
      · rcases counts with ⟨exhausted, same, -⟩ | ⟨remaining, next, -⟩
        · omega
        · exact next.trans_le remaining
      · intro exhausted
        rcases counts with ⟨-, -, dead⟩ | ⟨-, -, dead⟩
        · simp [dead]
        · simp [dead exhausted]
      · intro claimed
        cases deadLetter with
        | false => cases claimed
        | true => cases claimed
      · rintro _ ⟨⟩
      · cases deadLetter with
        | false => simp [OutboxEvent.stateCheck, unpublished]
        | true => simp [OutboxEvent.stateCheck, unpublished]
  | released claim own claimed lock unfailed =>
      refine ⟨old.bounded, ?_, ?_, ?_, ?_⟩
      · intro exhausted
        exact (unlocked claimed exhausted).elim
      · intro pending
        cases pending
      · rintro _ ⟨⟩
      · simp [OutboxEvent.stateCheck, unpublished claimed]
  | recovered idle claimed =>
      refine ⟨old.bounded, ?_, ?_, ?_, ?_⟩
      · intro exhausted
        exact (unlocked claimed exhausted).elim
      · intro pending
        cases pending
      · rintro _ ⟨⟩
      · simp [OutboxEvent.stateCheck, unpublished claimed]
  | retried deadLetter =>
      have stored := old.stored
      simp only [OutboxEvent.stateCheck, deadLetter, Bool.and_eq_true] at stored
      refine ⟨Nat.zero_le _, ?_, ?_, ?_, stored.1⟩
      · intro exhausted
        cases exhausted
      · intro pending
        cases pending
      · rintro _ ⟨⟩

end RowStep

/-- A step neither takes locks back nor forgets deliveries. -/
structure Extends (before after : Outbox) (now : Timestamp) (actor : Actor) : Prop where
  rewrites : Rewrites before after now actor
  nextLock : before.nextLock ≤ after.nextLock
  delivered : before.delivered ⊆ after.delivered

theorem Step.extends (step : Step now actor before after) : Extends before after now actor := by
  refine ⟨step.rewrites, ?_, ?_⟩
  · cases step with
    | claimed | leases => exact Nat.le_succ _
    | delivers answer =>
        cases answer with
        | ok => exact le_rfl
        | error => exact le_rfl
    | _ => exact le_rfl
  · cases step with
    | delivers answer =>
        cases answer with
        | ok => exact List.subset_cons_self _ _
        | error => exact List.Subset.refl _
    | _ => exact List.Subset.refl _

theorem Task.Settled.mono {task : Task} {delivered more : List (Id × Lock)}
    (settled : task.Settled delivered) (grows : delivered ⊆ more) : task.Settled more := by
  cases task with
  | settling event job settlement =>
      cases settlement with
      | publish => exact ⟨settled.1, grows settled.2⟩
      | fail => exact settled
      | defer => exact settled
  | _ => exact settled

theorem Task.lease_mem_claims {task : Task} {event : ClaimedOutboxEvent}
    (lease : task.lease = some event) : event ∈ task.claims := by
  cases task with
  | delivering | settling =>
      cases lease
      exact List.mem_cons_self
  | _ => cases lease

namespace TaskValid

variable {task next : Task}

theorem idle (outbox : Outbox) : TaskValid outbox .idle :=
  ⟨fun _ member => (nomatch member), fun _ member => (nomatch member),
    fun _ lease => (nomatch lease), trivial⟩

/-- The task stays valid while others take steps. -/
theorem mono (valid : TaskValid before task) (steps : Extends before after now actor) :
    TaskValid after task := by
  constructor
  · intro event member
    exact (valid.issued event member).trans_le steps.nextLock
  · exact valid.shared
  · intro event lease row found locked
    have issued := valid.issued event (Task.lease_mem_claims lease)
    cases present : before.store.events.find? event.id with
    | none =>
        obtain ⟨fresh, -⟩ := steps.rewrites.inserted event.id row present found
        rw [fresh.lockedBy] at locked
        cases locked
    | some old =>
        rcases steps.rewrites.changed event.id old present with ⟨next, same, taken⟩ | ⟨gone, -⟩
        · cases found.symm.trans same
          obtain ⟨kept, attempts⟩ := taken.lockedBy_of_issued issued locked
          exact attempts.trans (valid.current event lease old present kept)
        · rw [found] at gone
          cases gone
  · exact valid.settled.mono steps.delivered

/-- A task that goes on with some of the claims, without writing under a lease. -/
theorem resume (valid : TaskValid before task) (claims : next.claims ⊆ task.claims)
    (unleased : next.lease = none) (settled : next.Settled before.delivered) :
    TaskValid before next := by
  constructor
  · intro event member
    exact valid.issued event (claims member)
  · intro first inFirst second inSecond
    exact valid.shared first (claims inFirst) second (claims inSecond)
  · intro event lease
    rw [unleased] at lease
    cases lease
  · exact settled

/-- A delivery goes on under its lease. -/
theorem deliver (valid : TaskValid before task) (claims : next.claims = task.claims)
    (lease : next.lease = task.lease) (settled : next.Settled before.delivered) :
    TaskValid before next := by
  constructor
  · rw [claims]
    exact valid.issued
  · rw [claims]
    exact valid.shared
  · rw [lease]
    exact valid.current
  · exact settled

end TaskValid

theorem settled_settleError (event : ClaimedOutboxEvent) (job : Option Job) (error : OutboxError)
    (delivered : List (Id × Lock)) (remaining : event.attempts < maxAttempts) :
    (Task.settling event job (settleError event job error)).Settled delivered := by
  have counted (permanent : Bool) (exhausted : Bool) : Counts event (event.attempts + 1)
      (permanent || (decide (event.attempts + 1 ≥ maxAttempts) || exhausted)) := by
    right
    refine ⟨remaining, rfl, ?_⟩
    intro last
    simp [last]
  unfold settleError
  cases error.kind with
  | deferred => trivial
  | permanent => exact counted _ _
  | other => exact counted _ _

namespace Valid

theorem start (employees : Table Employee.id) : Valid (.start employees) where
  rows _ member := (Table.not_mem_empty member).elim
  tasks _ := .idle _

theorem rows_of_extends (valid : Valid before) (steps : Extends before after now actor) :
    ∀ row ∈ after.store.events, RowValid after.nextLock row := by
  intro row member
  have found := Table.find?_of_mem member
  cases present : before.store.events.find? row.id with
  | none =>
      obtain ⟨fresh, -⟩ := steps.rewrites.inserted row.id row present found
      refine ⟨?_, ?_, ?_, ?_, ?_⟩
      · rw [fresh.attempts]
        exact Nat.zero_le _
      · intro exhausted
        rw [fresh.attempts] at exhausted
        cases exhausted
      · intro claimed
        simp [OutboxEvent.isClaimed, fresh.status] at claimed
      · intro lock locked
        rw [fresh.lockedBy] at locked
        cases locked
      · simp [OutboxEvent.stateCheck, fresh.status, fresh.publishedAt]
  | some old =>
      rcases steps.rewrites.changed row.id old present with ⟨next, same, taken⟩ | ⟨gone, -⟩
      · cases found.symm.trans same
        refine taken.valid valid ?_ steps.nextLock
        rw [Table.find?_key present]
        exact present
      · rw [found] at gone
        cases gone

/-- One worker goes on with a valid task. -/
theorem proceed (valid : Valid before) (steps : Extends before after now actor) {worker : Worker}
    {task : Task} (tasks : after.tasks = Function.update before.tasks worker task)
    (next : TaskValid after task) : Valid after := by
  refine ⟨valid.rows_of_extends steps, ?_⟩
  intro other
  rw [tasks]
  by_cases own : other = worker
  · subst own
    rw [Function.update_self]
    exact next
  · rw [Function.update_of_ne own]
    exact (valid.tasks other).mono steps

theorem unmoved (valid : Valid before) (steps : Extends before after now actor)
    (tasks : after.tasks = before.tasks) : Valid after := by
  refine ⟨valid.rows_of_extends steps, ?_⟩
  intro worker
  rw [tasks]
  exact (valid.tasks worker).mono steps

theorem task (valid : Valid before) {worker : Worker} {task : Task}
    (held : before.tasks worker = task) : TaskValid before task :=
  held ▸ valid.tasks worker

theorem step (valid : Valid before) (step : Step now actor before after) : Valid after := by
  have steps := step.extends
  cases step with
  | staffed | enqueued | retried | recovered | dropped | releasedUnheard =>
      exact valid.unmoved steps rfl
  | @claimed _ worker _ events locked idle ran =>
      simp only [claimBatch, commits_bind, commits_findMany, commits_updateMany,
        commits_pure] at ran
      obtain ⟨_, _, -, _, _, -, rows, _, -, rfl, -⟩ := ran
      have drawn (event : ClaimedOutboxEvent)
          (member : event ∈ rows.map (·.claimedBy before.nextLock)) :
          event.lockedBy = before.nextLock := by
        obtain ⟨row, -, rfl⟩ := List.mem_map.mp member
        rfl
      refine valid.proceed steps rfl ⟨?_, ?_, ?_, trivial⟩
      · intro event member
        rw [drawn event member]
        exact Nat.lt_succ_self _
      · intro first inFirst second inSecond
        rw [drawn first inFirst, drawn second inSecond]
      · intro event lease
        cases lease
  | enqueues held =>
      refine valid.proceed steps rfl (TaskValid.mono ?_ steps)
      exact (valid.task held).resume (List.Subset.refl _) rfl trivial
  | handsOver held =>
      refine valid.proceed steps rfl (TaskValid.mono ?_ steps)
      exact (valid.task held).resume (List.subset_cons_self _ _) rfl trivial
  | interrupts held =>
      refine valid.proceed steps rfl (TaskValid.mono ?_ steps)
      exact (valid.task held).resume (List.Subset.refl _) rfl trivial
  | queued held | waits held | refused _ held =>
      refine valid.proceed steps rfl (TaskValid.mono ?_ steps)
      exact (valid.task held).resume (List.subset_cons_self _ _) rfl trivial
  | throws held =>
      refine valid.proceed steps rfl (TaskValid.mono ?_ steps)
      exact (valid.task held).resume (List.Subset.refl _) rfl trivial
  | @reads _ worker _ event id job idle ran deliverable =>
      obtain ⟨found, -⟩ := commits_findUnique.mp ran
      have row := valid.rows event (Table.mem_of_find? found.symm)
      have claim (claimed : ClaimedOutboxEvent) (member : claimed ∈ (Task.leasing event job).claims) :
          event.lockedBy = some claimed.lockedBy := by
        obtain ⟨lock, locked, rfl⟩ := List.mem_map.mp member
        exact Option.mem_toList.mp locked
      refine valid.proceed steps rfl (TaskValid.mono ⟨?_, ?_, ?_, deliverable⟩ steps)
      · intro claimed member
        exact row.issued _ (claim claimed member)
      · intro first inFirst second inSecond
        exact Option.some.inj ((claim first inFirst).symm.trans (claim second inSecond))
      · intro claimed lease
        cases lease
  | @leases _ worker store event job count held ran =>
      refine valid.proceed steps rfl ?_
      split
      · obtain ⟨counted, rfl⟩ := commits_updateMany.mp ran
        refine ⟨?_, ?_, ?_, trivial⟩
        · intro claimed member
          cases List.mem_singleton.mp member
          exact Nat.lt_succ_self _
        · intro first inFirst second inSecond
          rw [List.mem_singleton.mp inFirst, List.mem_singleton.mp inSecond]
        · intro claimed lease row found locked
          cases lease
          simp only [outboxEvent_set_events, outboxEvent_get, Table.find?_update,
            Option.map_eq_some_iff] at found
          obtain ⟨old, present, same⟩ := found
          split at same
          · rename_i holds
            simp only [Bool.and_eq_true, decide_eq_true_eq] at holds
            rw [← same]
            exact holds.2.1.1.2
          · subst same
            have issued := (valid.rows old (Table.mem_of_find? present)).issued _ locked
            exact (lt_irrefl _ issued).elim
      · exact .idle _
  | exhausts held exhausted =>
      refine valid.proceed steps rfl (TaskValid.mono ?_ steps)
      exact (valid.task held).deliver rfl rfl (.inl ⟨exhausted, rfl, rfl⟩)
  | @delivers _ worker event job answer held remaining =>
      have task := (valid.task held).mono steps
      cases answer with
      | ok =>
          refine valid.proceed steps rfl (task.deliver rfl rfl ⟨remaining, ?_⟩)
          exact List.mem_cons_self
      | error error =>
          refine valid.proceed steps rfl (task.deliver rfl rfl ?_)
          exact settled_settleError event job error _ remaining
  | @unpublished _ worker event job error held =>
      refine valid.proceed steps rfl (TaskValid.mono ?_ steps)
      have task := valid.task held
      exact task.deliver rfl rfl (settled_settleError event job error _ task.settled.1)
  | @publishedUnheard _ worker _ _ event job error held ran =>
      refine valid.proceed steps rfl (TaskValid.mono ?_ steps)
      have task := valid.task held
      exact task.deliver rfl rfl (settled_settleError event job error _ task.settled.1)
  | @fires _ worker timer event job held idle =>
      refine valid.proceed steps rfl (TaskValid.mono ?_ steps)
      rcases held with held | ⟨settlement, held⟩
      · exact (valid.task held).resume (List.Subset.refl _) rfl trivial
      · exact (valid.task held).resume (List.Subset.refl _) rfl trivial
  | handsBack | settles | renews | ends => exact valid.proceed steps rfl (.idle _)

end Valid

theorem Valid.run (valid : Valid before) (steps : Relation.ReflTransGen Moves before after) :
    Valid after := by
  induction steps with
  | refl => exact valid
  | tail _ moved inductionHypothesis =>
      obtain ⟨now, actor, taken⟩ := moved
      exact inductionHypothesis.step taken

theorem Reachable.valid {outbox : Outbox} (reachable : Reachable outbox) : Valid outbox := by
  obtain ⟨employees, steps⟩ := reachable
  exact (Valid.start employees).run steps

/-- The event is there and carries the lock. -/
def Outbox.Locked (outbox : Outbox) (id : Id) (lock : Lock) : Prop :=
  ∃ row, outbox.store.events.find? id = some row ∧ row.lockedBy = some lock

/-- What one step may do to the events. -/
structure Fenced (before after : Outbox) (now : Timestamp) (actor : Actor) : Prop where
  published : ∀ id next, after.store.events.find? id = some next → next.status = .published →
    before.store.events.find? id = some next ∨
    ∃ worker event job row, actor = .worker worker ∧
      before.tasks worker = .settling event job .publish ∧ event.id = id ∧
      before.store.events.find? id = some row ∧ row.status = .processing ∧
      row.lockedBy = some event.lockedBy ∧ (id, event.lockedBy) ∈ before.delivered
  stale : ∀ worker, actor = .worker worker → ∀ event ∈ (before.tasks worker).claims,
    ¬before.Locked event.id event.lockedBy →
      after.store.events.find? event.id = before.store.events.find? event.id
  terminal : ∀ id row, before.store.events.find? id = some row →
    row.status = .published ∨ row.status = .deadLetter →
      after.store.events.find? id = some row ∨
      (after.store.events.find? id = none ∧ Droppable now row) ∨
      ∃ employeeId, actor = .operator id employeeId row.availableAt ∧ row.status = .deadLetter
  attempts : ∀ id row next, before.store.events.find? id = some row →
    after.store.events.find? id = some next →
      (∀ employeeId availableAt, actor ≠ .operator id employeeId availableAt) →
        row.attempts ≤ next.attempts
  counted : ∀ id row next, before.store.events.find? id = some row →
    after.store.events.find? id = some next → ∀ worker, actor = .worker worker →
      (∀ event job error attempts deadLetter,
        before.tasks worker ≠ .settling event job (.fail error attempts deadLetter)) →
        next.attempts = row.attempts
  lockedAt : ∀ id next lockedAt, after.store.events.find? id = some next →
    next.lockedAt = some lockedAt → lockedAt = now ∨
      ∃ row, before.store.events.find? id = some row ∧ row.lockedAt = some lockedAt

theorem Step.rowStep (step : Step now actor before after) {id : Id} {row next : OutboxEvent}
    (found : before.store.events.find? id = some row)
    (present : after.store.events.find? id = some next) : RowStep before after now actor row next := by
  rcases step.rewrites.changed id row found with ⟨other, same, taken⟩ | ⟨gone, -⟩
  · cases present.symm.trans same
    exact taken
  · rw [present] at gone
    cases gone

/-- A worker whose claim is stale leaves the row alone. -/
theorem RowStep.stale {worker : Worker} {row next : OutboxEvent}
    (taken : RowStep before after now (.worker worker) row next) (valid : Valid before)
    {event : ClaimedOutboxEvent} (claim : event ∈ (before.tasks worker).claims)
    (own : row.id = event.id) (lost : row.lockedBy ≠ some event.lockedBy) : next = row := by
  have shared := (valid.tasks worker).shared
  cases taken with
  | kept => rfl
  | claimed idle | recovered idle =>
      rw [idle] at claim
      cases claim
  | leased held _ _ lock =>
      rw [held] at claim
      obtain ⟨held, locked, rfl⟩ := List.mem_map.mp claim
      exact (lost (lock.trans (Option.mem_toList.mp locked))).elim
  | renewed held lease | published held lease | failed held lease =>
      rw [held] at claim
      cases List.mem_singleton.mp claim
      exact (lost (own_of_isLeased lease).2.2).elim
  | released held _ _ lock => exact (lost (lock.trans (congrArg some (shared _ held _ claim)))).elim

theorem Step.fenced (step : Step now actor before after) (valid : Valid before) :
    Fenced before after now actor where
  published := by
    intro id next present published
    cases found : before.store.events.find? id with
    | none =>
        have fresh := (step.rewrites.inserted id next found present).1
        exact nomatch published.symm.trans fresh.status
    | some row =>
        have own := Table.find?_key found
        cases step.rowStep found present with
        | kept => exact .inl rfl
        | @published worker _ event job held lease =>
            obtain ⟨same, status, lock⟩ := own_of_isLeased lease
            have settled := (valid.task held).settled
            have ownId : event.id = id := same.symm.trans own
            exact .inr ⟨worker, event, job, row, rfl, held, ownId, rfl, status, lock,
              ownId ▸ settled.2⟩
        | @failed _ _ _ _ _ _ deadLetter _ held lease =>
            cases deadLetter with
            | false => cases published
            | true => cases published
        | renewed held lease =>
            exact nomatch published.symm.trans (own_of_isLeased lease).2.1
        | _ => cases published
  stale := by
    rintro worker rfl event claim lost
    cases found : before.store.events.find? event.id with
    | none =>
        cases present : after.store.events.find? event.id with
        | none => rfl
        | some next => cases (step.rewrites.inserted event.id next found present).2
    | some row =>
        have unlocked : row.lockedBy ≠ some event.lockedBy := fun locked =>
          lost ⟨row, found, locked⟩
        rcases step.rewrites.changed event.id row found with
          ⟨next, present, taken⟩ | ⟨gone, droppable, other, same, idle⟩
        · rw [present, taken.stale valid claim (Table.find?_key found) unlocked]
        · cases same
          rw [idle] at claim
          cases claim
  terminal := by
    intro id row found ended
    have own := Table.find?_key found
    rcases step.rewrites.changed id row found with ⟨next, present, taken⟩ | ⟨gone, droppable, -⟩
    · cases taken with
      | kept => exact .inl present
      | retried deadLetter => exact .inr (.inr ⟨_, by rw [own], deadLetter⟩)
      | claimed _ pending => simp [pending] at ended
      | @leased _ _ _ _ held _ status =>
          have deliverable := (valid.task held).settled
          simp only [Task.Settled, ← status] at deliverable
          rcases deliverable with status | status
          · simp [status] at ended
          · simp [status] at ended
      | renewed _ lease | published _ lease | failed _ lease =>
          simp [(own_of_isLeased lease).2.1] at ended
      | released _ _ claimed | recovered _ claimed =>
          rcases ended with status | status
          · simp [OutboxEvent.isClaimed, status] at claimed
          · simp [OutboxEvent.isClaimed, status] at claimed
    · exact .inr (.inl ⟨gone, droppable⟩)
  attempts := by
    intro id row next found present other
    have own := Table.find?_key found
    cases step.rowStep found present with
    | @failed worker _ event job error attempts deadLetter _ held lease =>
        obtain ⟨same, -, lock⟩ := own_of_isLeased lease
        have task := valid.task held
        have current : row.attempts = event.attempts :=
          task.current event rfl row (same ▸ own ▸ found) lock
        have counts : Counts event attempts deadLetter := task.settled
        rcases counts with ⟨-, same, -⟩ | ⟨-, more, -⟩
        · simp only [current, same, le_refl]
        · simp only [current, more, Nat.le_succ]
    | retried => exact (other _ _ (by rw [own])).elim
    | _ => exact le_rfl
  counted := by
    rintro id row next found present worker rfl unfailed
    cases step.rowStep found present with
    | failed held lease => exact (unfailed _ _ _ _ _ held).elim
    | _ => rfl
  lockedAt := by
    intro id next lockedAt present locked
    cases found : before.store.events.find? id with
    | none =>
        have fresh := (step.rewrites.inserted id next found present).1
        exact nomatch locked.symm.trans fresh.lockedAt
    | some row =>
        cases step.rowStep found present with
        | kept => exact .inr ⟨_, rfl, locked⟩
        | claimed | leased | renewed => exact .inl (Option.some.inj locked).symm
        | _ => cases locked

/-- A lock that an event has lost does not come back. -/
theorem Step.unlocked (step : Step now actor before after) {id : Id} {lock : Lock}
    (issued : lock < before.nextLock) (lost : ¬before.Locked id lock) : ¬after.Locked id lock := by
  rintro ⟨next, present, locked⟩
  cases found : before.store.events.find? id with
  | none =>
      have fresh := (step.rewrites.inserted id next found present).1
      exact nomatch locked.symm.trans fresh.lockedBy
  | some row =>
      have kept := (step.rowStep found present).lockedBy_of_issued issued locked
      exact lost ⟨row, found, kept.1⟩

theorem unlocked_of_run {id : Id} {lock : Lock} (issued : lock < before.nextLock)
    (lost : ¬before.Locked id lock) (steps : Relation.ReflTransGen Moves before after) :
    ¬after.Locked id lock ∧ lock < after.nextLock := by
  induction steps with
  | refl => exact ⟨lost, issued⟩
  | tail _ moved inductionHypothesis =>
      obtain ⟨now, actor, taken⟩ := moved
      obtain ⟨unlocked, drawn⟩ := inductionHypothesis
      exact ⟨taken.unlocked drawn unlocked, drawn.trans_le taken.extends.nextLock⟩

theorem find?_recoverAbandonedEvents {store : OutboxStore} {event : OutboxEvent}
    {lockedAt : Timestamp} (found : store.events.find? event.id = some event)
    (claimed : event.isClaimed = true) (locked : event.lockedAt = some lockedAt)
    (expired : lockedAt + lockTimeoutMs < now) :
    ∃ count recovered, Commits (recoverAbandonedEvents now) store count recovered ∧
      recovered.events.find? event.id =
        some { event with status := .pending, lockedAt := none, lockedBy := none } := by
  refine ⟨_, _, commits_updateMany.mpr ⟨rfl, rfl⟩, ?_⟩
  simp [found, claimed, locked, expired]

/-- Every state of the dispatchers bounds the attempts and dates the claims, every step from it
is fenced by the locks, a claim that lost its lock is of no use in any later step, and a claim
that is not renewed in time is given back by the next recovery. -/
theorem Reachable.outboxFencing {outbox : Outbox} (reachable : Reachable outbox) :
    (∀ event ∈ outbox.store.events, event.attempts ≤ maxAttempts ∧
      (event.attempts = maxAttempts → event.status = .deadLetter) ∧
      (event.isClaimed = true → event.lockedAt.isSome = true)) ∧
    (∀ now actor after, Step now actor outbox after → Fenced outbox after now actor) ∧
    (∀ worker, ∀ event ∈ (outbox.tasks worker).claims, ¬outbox.Locked event.id event.lockedBy →
      ∀ later, Relation.ReflTransGen Moves outbox later →
        ∀ holder, ∀ held ∈ (later.tasks holder).claims,
          held.id = event.id → held.lockedBy = event.lockedBy →
            ∀ now after, Step now (.worker holder) later after →
              after.store.events.find? event.id = later.store.events.find? event.id) ∧
    (∀ event ∈ outbox.store.events, event.isClaimed = true →
      ∃ lockedAt, event.lockedAt = some lockedAt ∧ ∀ now, lockedAt + lockTimeoutMs < now →
        ∃ count store, Commits (recoverAbandonedEvents now) outbox.store count store ∧
          store.events.find? event.id =
            some { event with status := .pending, lockedAt := none, lockedBy := none }) := by
  have valid := reachable.valid
  refine ⟨?_, ?_, ?_, ?_⟩
  · intro event member
    have row := valid.rows event member
    exact ⟨row.bounded, row.exhausted, row.held⟩
  · intro now actor after step
    exact step.fenced valid
  · intro worker event claim lost later steps holder held holds sameId sameLock now after step
    have issued := (valid.tasks worker).issued event claim
    have unlocked := (unlocked_of_run issued lost steps).1
    rw [← sameId, ← sameLock] at unlocked
    rw [← sameId]
    exact (step.fenced (valid.run steps)).stale holder rfl held holds unlocked
  · intro event member claimed
    obtain ⟨lockedAt, locked⟩ := Option.isSome_iff_exists.mp ((valid.rows event member).held claimed)
    refine ⟨lockedAt, locked, ?_⟩
    intro now expired
    exact find?_recoverAbandonedEvents (Table.find?_of_mem member) claimed locked expired

/-- An event that waits since the instant 1. -/
def Outbox.waiting : Outbox :=
  { Outbox.start .empty with
    store := {
      events := ⟨[{
        id := 7
        eventName := "order.completed"
        payload := "{}"
        status := .pending
        attempts := 0
        availableAt := 1
        lockedAt := none
        lockedBy := none
        lastError := none
        lastErrorCode := none
        lastFailedAt := none
        occurredAt := 1
        publishedAt := none }], by decide⟩
      employees := .empty } }

theorem run_waiting : Relation.ReflTransGen Moves (.start .empty) .waiting :=
  .single ⟨1, .service, .enqueued 7 "order.completed" "{}" rfl⟩

/-- A worker claims the waiting event at the instant 2, and crashes: the event is given back
by a recovery after the instant 90002. -/
theorem Reachable.outboxFencing_claimed : ∃ outbox event, Reachable outbox ∧
    event ∈ outbox.store.events ∧ event.status = .enqueued ∧
    ∃ count store, Commits (recoverAbandonedEvents 90003) outbox.store count store ∧
      store.events.find? event.id =
        some { event with status := .pending, lockedAt := none, lockedBy := none } := by
  obtain ⟨events, store, ran, member⟩ : ∃ events store,
      Commits (claimBatch (fun _ => false) Outbox.waiting.nextLock 2) Outbox.waiting.store events
        store ∧ ∃ event ∈ store.events, event.status = .enqueued ∧ event.lockedAt = some 2 :=
    ⟨_, _, rfl, _, List.mem_singleton.mpr rfl, rfl, rfl⟩
  obtain ⟨event, member, enqueued, locked⟩ := member
  have claims : Step 2 (.worker 0) Outbox.waiting _ := .claimed (fun _ => false) rfl ran
  have reachable : Reachable _ := ⟨.empty, run_waiting.tail ⟨2, .worker 0, claims⟩⟩
  have claimed : event.isClaimed = true := by simp [OutboxEvent.isClaimed, enqueued]
  obtain ⟨lockedAt, dated, recovers⟩ := reachable.outboxFencing.2.2.2 event member claimed
  cases dated.symm.trans locked
  exact ⟨_, event, reachable, member, enqueued, recovers 90003 (by decide)⟩

end OutboxDispatcher

end CoffeeShop
