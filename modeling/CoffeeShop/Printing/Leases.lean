import CoffeeShop.Library.Aborts
import CoffeeShop.Printing.JobMoves
import CoffeeShop.Runs

/-!
Leases of print jobs over whole runs.

A claimed job is held until its lease holder reports in time that nothing was printed,
or an operator finds that out.  Tokens are never drawn twice, so the holder of a token
that a job no longer carries can do nothing to it.
-/

namespace CoffeeShop

open Transaction PrintStore PrintingService Database

/-- The entry handed the job to an agent under the token. -/
def RunEntry.HandsOut (entry : RunEntry) (jobId leaseToken : Id) : Prop :=
  ∃ deviceId limit locked now handed value,
    entry.event = .perform (.print (.claimJobs deviceId limit locked)) now ∧
      entry.answer = .ok () ∧ leaseToken = entry.before.nextId ∧
      Commits (claimJobs deviceId limit locked leaseToken now) entry.before.printing handed value ∧
      ∃ job ∈ handed, job.id = jobId

/-- The lease holder reported before its lease expired that the job was not printed. -/
def RunEntry.ReportsNotPrinted (entry : RunEntry) (jobId : Id) : Prop :=
  ∃ deviceId leaseToken error now job,
    entry.event = .perform (.print (.failJob deviceId jobId leaseToken error .notPrinted)) now ∧
      entry.answer = .ok () ∧ entry.before.printing.jobs.find? jobId = some job ∧
      isLeased deviceId jobId leaseToken job = true ∧ job.status = .processing ∧
      job.leaseExpiresAt.any (now ≤ ·) = true

/-- An operator resolved that the job was not printed. -/
def RunEntry.ResolvesNotPrinted (entry : RunEntry) (jobId : Id) : Prop :=
  ∃ employeeId expectedUpdatedAt now,
    entry.event = .perform (.print (.resolveJob jobId employeeId .notPrinted expectedUpdatedAt))
      now ∧ entry.answer = .ok ()

def RunEntry.Retries (entry : RunEntry) (jobId : Id) : Prop :=
  ∃ employeeId deviceId now,
    entry.event = .perform (.print (.retryJob jobId employeeId deviceId)) now ∧
      entry.answer = .ok ()

/-- An agent acknowledges the job under the token, or reports that it failed. -/
inductive Action.Acknowledges (jobId leaseToken : Id) : Action → Prop where
  | complete (deviceId : Id) (now : Timestamp) :
      Acknowledges jobId leaseToken (.perform (.print (.completeJob deviceId jobId leaseToken)) now)
  | fail (deviceId : Id) (error : String) (outcome : PrintFailureOutcome) (now : Timestamp) :
      Acknowledges jobId leaseToken
        (.perform (.print (.failJob deviceId jobId leaseToken error outcome)) now)

/-- The token is the current one of the job. -/
def PrintStore.HasLease (store : PrintStore) (jobId leaseToken : Id) : Prop :=
  ∃ job, store.jobs.find? jobId = some job ∧ job.leaseTokenHash = some leaseToken

/-- What the leases guarantee over the entries of a run. -/
structure LeaseFencing (entries : List RunEntry) : Prop where
  handedAgain : ∀ first earlier middle later last jobId token again,
    entries = first ++ earlier :: (middle ++ later :: last) →
    earlier.HandsOut jobId token → later.HandsOut jobId again →
      (∃ entry ∈ middle, entry.ReportsNotPrinted jobId) ∨
      ∃ front entry rest, middle = front ++ entry :: rest ∧ entry.ResolvesNotPrinted jobId ∧
        ∃ retry ∈ rest, retry.Retries jobId
  stale : ∀ first issue middle late last jobId token,
    entries = first ++ issue :: (middle ++ late :: last) → issue.HandsOut jobId token →
    ¬late.before.printing.HasLease jobId token →
      ∀ entry ∈ late :: last, entry.event.Acknowledges jobId token →
        entry.answer = .error staleLease ∧ entry.after = entry.before
  repeated : ∀ first earlier middle later last deviceId jobId token now again,
    entries = first ++ earlier :: (middle ++ later :: last) →
    earlier.event = .perform (.print (.completeJob deviceId jobId token)) now →
    earlier.answer = .ok () →
    later.event = .perform (.print (.completeJob deviceId jobId token)) again →
      later.answer = .ok () ∧ later.after = later.before
  tries : ∀ entry ∈ entries, ∀ job ∈ entry.after.printing.jobs,
    job.status = .pending → job.attempts < job.maxAttempts

/-- A pending job was not touched by the recovery of expired leases. -/
theorem pending_of_recoverExpiredJobs {deviceId : Option Id} {locked : Id → Bool} {now : Timestamp}
    {before after : PrintStore}
    (committed : Commits (recoverExpiredJobs deviceId locked now) before () after) {job : PrintJob}
    (membership : job ∈ after.jobs) (pending : job.status = .pending) : job ∈ before.jobs := by
  simp only [recoverExpiredJobs, commits_bind, commits_findMany, commits_pure] at committed
  obtain ⟨_, _, ⟨-, rfl⟩, _, _, updated, -, rfl⟩ := committed
  obtain ⟨row, member, same⟩ := exists_before_updateJobs updated membership
  split at same
  · subst same
    simp [touched] at pending
  · rw [← same]
    exact member

/-- What a claim hands out was pending and is leased. -/
theorem of_mem_claimJobs {deviceId token : Id} {limit : Nat} {locked : Id → Bool} {now : Timestamp}
    {before after : PrintStore} {handed : List PrintJob}
    (committed : Commits (claimJobs deviceId limit locked token now) before handed after)
    {job : PrintJob} (given : job ∈ handed) :
    (before.jobs.find? job.id).any (·.status = .pending) = true ∧
      after.jobs.find? job.id = some job ∧ job.status = .processing := by
  simp only [claimJobs, commits_bind, commits_findUnique, commits_require, commits_findMany]
    at committed
  obtain ⟨_, _, ⟨-, rfl⟩, _, _, ⟨-, rfl⟩, _, middle, recovered, _, _, ⟨rfl, rfl⟩, _, _, updated,
    rfl, rfl⟩ := committed
  obtain ⟨member, chosen⟩ := Table.mem_select.mp given
  obtain ⟨row, membership, same⟩ := exists_before_updateJobs updated member
  have sameId : row.id = job.id := by
    rw [← same]
    split <;> rfl
  rw [← sameId] at chosen
  rw [if_pos chosen] at same
  have claimable := JobMoves.of_mem_candidates membership (of_decide_eq_true chosen)
  simp only [isClaimable, Bool.and_eq_true, decide_eq_true_eq] at claimable
  have pending := claimable.1.1.2
  have earlier := pending_of_recoverExpiredJobs recovered membership pending
  refine ⟨?_, Table.find?_of_mem member, ?_⟩
  · rw [← sameId, Table.find?_of_mem earlier]
    simp [pending]
  · rw [← same]
    rfl

section Acknowledgement

variable {deviceId jobId token : Id} {now : Timestamp} {store : PrintStore}

/-- An update that finds nothing commits and changes nothing. -/
theorem commits_idle {condition : PrintJob → Bool} {change : PrintJob → PrintJob}
    {keeps : ∀ job, (change job).id = job.id} (queued : ∀ job ∈ store.jobs, job.Queued)
    (none : ∀ job ∈ store.jobs, condition job = false) :
    Commits (updateJobs condition change now keeps) store 0 store := by
  have unchanged : store.jobs.update condition (touched now change) (touched_id now keeps) =
      store.jobs := Table.update_eq_self none
  have storable (job : PrintJob) (membership : job ∈ store.jobs) :
      job.stateCheck = true ∧ job.valuesCheck = true := by
    simpa [PrintJob.isStorable] using (queued job membership).1
  rw [commits_updateJobs, unchanged]
  refine ⟨(Table.count_eq_zero.mpr none).symm, rfl, ?_, ?_⟩
  · exact fun job membership => (storable job membership).1
  · exact fun job membership => (storable job membership).2

/-- No row of the table is leased under a token that its job does not carry. -/
theorem not_isLeased (deviceId : Id)
    (stale : (store.jobs.find? jobId).all (·.leaseTokenHash ≠ some token) = true) :
    ∀ job ∈ store.jobs, isLeased deviceId jobId token job = false := by
  intro job membership
  by_contra leased
  simp only [isLeased, Bool.not_eq_false, Bool.and_eq_true, decide_eq_true_eq] at leased
  obtain ⟨⟨same, -⟩, carried⟩ := leased
  rw [← same, Table.find?_of_mem membership] at stale
  simp [carried] at stale

theorem completeJob_stale (queued : ∀ job ∈ store.jobs, job.Queued)
    (stale : (store.jobs.find? jobId).all (·.leaseTokenHash ≠ some token) = true) :
    Aborts (completeJob deviceId jobId token now) store staleLease := by
  have unleased := not_isLeased deviceId stale
  refine aborts_bind.mpr (.inr ⟨0, store, commits_idle queued fun job membership => ?_, ?_⟩)
  · simp [unleased job membership]
  · have absent : store.jobs.first? (fun job =>
        isLeased deviceId jobId token job && job.status = .printed) = none := by
      rw [Table.first?_eq_none]
      intro job membership
      simp [unleased job membership]
    simp [absent]

theorem failJob_stale {error : String} {outcome : PrintFailureOutcome}
    {cancelledItems : Option Id → List Id}
    (stale : (store.jobs.find? jobId).all (·.leaseTokenHash ≠ some token) = true) :
    Aborts (failJob deviceId jobId token error outcome cancelledItems now) store staleLease := by
  have unleased := not_isLeased deviceId stale
  have absent : store.jobs.first? (fun job => isLeased deviceId jobId token job &&
      job.status = .processing && job.leaseExpiresAt.any (now ≤ ·)) = none := by
    rw [Table.first?_eq_none]
    intro job membership
    simp [unleased job membership]
  refine aborts_bind.mpr (.inl ?_)
  simp [findFirstOrFail, absent]

/-- After an acknowledgement the job is printed and still carries the token. -/
theorem completeJob_printed {after : PrintStore}
    (committed : Commits (completeJob deviceId jobId token now) store () after) :
    ∃ job, after.jobs.find? jobId = some job ∧ isLeased deviceId jobId token job = true ∧
      job.status = .printed := by
  obtain ⟨count, middle, updated, rest⟩ := commits_bind.mp committed
  rcases commits_when.mp rest with ⟨-, repeated⟩ | ⟨single, rfl⟩
  · simp only [commits_bind, commits_findFirst, commits_require] at repeated
    obtain ⟨_, _, ⟨rfl, rfl⟩, completed, rfl⟩ := repeated
    obtain ⟨job, first⟩ := Option.isSome_iff_exists.mp completed
    obtain ⟨membership, holds⟩ := Table.mem_of_first? first
    simp only [Bool.and_eq_true, decide_eq_true_eq] at holds
    have leased := holds.1
    simp only [isLeased, Bool.and_eq_true, decide_eq_true_eq] at leased
    obtain ⟨⟨rfl, -⟩, -⟩ := leased
    exact ⟨job, Table.find?_of_mem membership, holds⟩
  · obtain ⟨counted, -⟩ := commits_updateJobs.mp updated
    have some : ¬∀ job ∈ store.jobs, (isLeased deviceId jobId token job &&
        (job.status = .processing || job.status = .requiresReview)) = false := by
      intro none
      rw [Table.count_eq_zero.mpr none] at counted
      exact single (by simp [counted])
    push Not at some
    obtain ⟨row, membership, holds⟩ := some
    simp only [Bool.not_eq_false] at holds
    have leased := (Bool.and_eq_true_iff.mp holds).1
    have final := find?_updateJobs updated row.id
    rw [Table.find?_of_mem membership, Option.map_some, if_pos holds] at final
    have same : row.id = jobId := by
      simp only [isLeased, Bool.and_eq_true, decide_eq_true_eq] at leased
      exact leased.1.1
    rw [same] at final
    exact ⟨_, final, leased, rfl⟩

/-- An acknowledgement of a printed job changes nothing. -/
theorem completeJob_repeated {job : PrintJob} (queued : ∀ job ∈ store.jobs, job.Queued)
    (found : store.jobs.find? jobId = some job) (leased : isLeased deviceId jobId token job = true)
    (printed : job.status = .printed) :
    Commits (completeJob deviceId jobId token now) store () store := by
  refine commits_bind.mpr ⟨0, store, commits_idle queued fun other membership => ?_, ?_⟩
  · by_contra holds
    simp only [isLeased, Bool.not_eq_false, Bool.and_eq_true, Bool.or_eq_true,
      decide_eq_true_eq] at holds
    obtain ⟨⟨⟨same, -⟩, -⟩, unprinted⟩ := holds
    rw [← same, Table.find?_of_mem membership, Option.some.injEq] at found
    simp [found, printed] at unprinted
  · have completed : (store.jobs.first? (fun job =>
        isLeased deviceId jobId token job && job.status = .printed)).isSome = true := by
      rw [Option.isSome_iff_ne_none]
      intro absent
      have fails := Table.first?_eq_none.mp absent job (Table.mem_of_find? found)
      simp [leased, printed] at fails
    simp [completed]

end Acknowledgement

namespace RunEntry

variable {actions : List Action} {entry : RunEntry} {jobId token : Id}

/-- What every change of the job under the entry's command preserves is kept by the entry. -/
theorem holds_job {P : Option PrintJob → Prop} (ran : entry ∈ run actions)
    (kept : ∀ command now, entry.event = .perform command now → entry.answer = .ok () →
      ∀ first second, JobMove command entry.before.nextId jobId first second →
        P first → P second)
    (start : P (entry.before.printing.jobs.find? jobId)) :
    P (entry.after.printing.jobs.find? jobId) := by
  rcases RunEntry.step ran with ⟨answer, committed⟩ | ⟨_, -, same⟩
  · cases asked : entry.event with
    | perform command now =>
        rw [asked] at committed
        exact (Command.moves_jobs committed).holds (kept command now asked answer) start
    | administer catalog reservations =>
        have taken := Action.step committed
        rw [asked] at committed
        have final := commits_modify.mp committed
        rw [final]
        exact start
  · rw [same]
    exact start

/-- The run of a command that was answered. -/
theorem committed {command : Command} {now : Timestamp} (ran : entry ∈ run actions)
    (asked : entry.event = .perform command now) (answer : entry.answer = .ok ()) :
    Commits (command.execute now) entry.before () entry.after := by
  rcases RunEntry.step ran with ⟨-, committed⟩ | ⟨failure, aborted, -⟩
  · rw [asked] at committed
    exact committed
  · rw [answer] at aborted
    cases aborted

/-- A committed report comes from the holder of a current lease. -/
theorem reportsNotPrinted {deviceId : Id} {error : String} {now : Timestamp}
    (ran : entry ∈ run actions)
    (asked : entry.event =
      .perform (.print (.failJob deviceId jobId token error .notPrinted)) now)
    (answer : entry.answer = .ok ()) : entry.ReportsNotPrinted jobId := by
  obtain ⟨_, _, read, reported⟩ := commits_bind.mp (committed ran asked answer)
  obtain ⟨rfl, rfl⟩ := commits_get.mp read
  obtain ⟨value, reported, -⟩ := commits_printingTx.mp reported
  obtain ⟨job, _, found, -⟩ := commits_bind.mp reported
  obtain ⟨first, -⟩ := commits_findFirstOrFail.mp found
  obtain ⟨membership, holds⟩ := Table.mem_of_first? first
  simp only [Bool.and_eq_true, decide_eq_true_eq] at holds
  have same : job.id = jobId := by
    have leased := holds.1.1
    simp only [isLeased, Bool.and_eq_true, decide_eq_true_eq] at leased
    exact leased.1.1
  subst same
  exact ⟨deviceId, token, error, now, job, asked, answer, Table.find?_of_mem membership,
    holds.1.1, holds.1.2, holds.2⟩

/-- A job that may be on paper, or that nobody will print. -/
def isHeld (job : PrintJob) : Bool := job.status ≠ .pending && job.status ≠ .failed

/-- A held job stays held, unless it is given back. -/
theorem keeps_held (ran : entry ∈ run actions)
    (unreported : ¬entry.ReportsNotPrinted jobId) (unresolved : ¬entry.ResolvesNotPrinted jobId)
    (held : (entry.before.printing.jobs.find? jobId).any isHeld = true) :
    (entry.after.printing.jobs.find? jobId).any isHeld = true := by
  refine holds_job (P := fun job => job.any isHeld = true) ran ?_ held
  intro command now asked answer first second moved held
  cases moved.change with
  | insert => simp at held
  | tend tends =>
      rcases tends.status with same | ⟨notPending, notFailed⟩
      · simpa [isHeld, same] using held
      · simp [isHeld, notPending, notFailed]
  | claim _ pending => simp [isHeld, pending] at held
  | report failed =>
      subst failed
      exact absurd (reportsNotPrinted ran asked answer) unreported
  | retry _ returned => rcases returned with pending | failed <;> simp [isHeld, *] at held
  | @resolve _ after employeeId outcome expectedUpdatedAt resolves _ _ resolved =>
      subst resolves
      cases outcome with
      | printed => simp [isHeld, resolved]
      | notPrinted =>
          exact absurd ⟨employeeId, expectedUpdatedAt, now, asked, answer⟩ unresolved

/-- A job that is not pending does not become pending unless it is given back or retried. -/
theorem keeps_unqueued (ran : entry ∈ run actions)
    (unreported : ¬entry.ReportsNotPrinted jobId) (unretried : ¬entry.Retries jobId)
    (unqueued : (entry.before.printing.jobs.find? jobId).any (·.status ≠ .pending) = true) :
    (entry.after.printing.jobs.find? jobId).any (·.status ≠ .pending) = true := by
  refine holds_job (P := fun job => job.any (·.status ≠ .pending) = true) ran ?_ unqueued
  intro command now asked answer first second moved unqueued
  cases moved.change with
  | insert => simp at unqueued
  | tend tends =>
      rcases tends.status with same | ⟨notPending, -⟩
      · simpa [same] using unqueued
      · simp [notPending]
  | claim _ _ claimed => simp [claimed]
  | report failed =>
      subst failed
      exact absurd (reportsNotPrinted ran asked answer) unreported
  | @retry _ _ employeeId deviceId retries =>
      subst retries
      exact absurd ⟨employeeId, deviceId, now, asked, answer⟩ unretried
  | @resolve _ _ _ outcome _ _ _ _ resolved => cases outcome <;> simp [resolved]

/-- A resolution finds the job under review, and does not queue it. -/
theorem ResolvesNotPrinted.unqueued (ran : entry ∈ run actions)
    (resolves : entry.ResolvesNotPrinted jobId) :
    (entry.after.printing.jobs.find? jobId).any (·.status ≠ .pending) = true := by
  obtain ⟨employeeId, expectedUpdatedAt, now, asked, answer⟩ := resolves
  have unreported : ¬entry.ReportsNotPrinted jobId := by
    rintro ⟨_, _, _, _, _, other, -⟩
    rw [asked] at other
    cases other
  have unretried : ¬entry.Retries jobId := by
    rintro ⟨_, _, _, other, -⟩
    rw [asked] at other
    cases other
  refine keeps_unqueued ran unreported unretried ?_
  obtain ⟨_, _, checked, resolved⟩ := commits_bind.mp (committed ran asked answer)
  cases Respects.step (R := Eq) checked
  obtain ⟨value, resolved, -⟩ := commits_printingTx.mp resolved
  obtain ⟨job, _, found, rest⟩ := commits_bind.mp resolved
  obtain ⟨present, rfl⟩ := commits_findUniqueOrFail.mp found
  obtain ⟨_, _, reviewed, -⟩ := commits_bind.mp rest
  have status := (commits_require.mp reviewed).1.1
  have present : entry.before.printing.jobs.find? jobId = some job := present
  simp [present, status]

/-- A token that was drawn and that the job does not carry. -/
def Stale (jobId token : Id) (database : Database) : Prop :=
  token < database.nextId ∧
    (database.printing.jobs.find? jobId).all (·.leaseTokenHash ≠ some token) = true

/-- A stale token stays stale, since a claim draws a new one. -/
theorem keeps_stale (ran : entry ∈ run actions) (stale : Stale jobId token entry.before) :
    Stale jobId token entry.after := by
  refine ⟨?_, ?_⟩
  · refine RunEntry.kept (P := fun database => token < database.nextId) ran ?_ stale.1
    intro after taken drawn
    exact Nat.lt_of_lt_of_le drawn taken.nextId_le
  · refine holds_job (P := fun job => job.all (·.leaseTokenHash ≠ some token) = true) ran ?_
      stale.2
    intro command now _ _ first second moved other
    cases moved.change with
    | insert _ _ unleased => simp [unleased]
    | tend tends => simpa [tends.leaseTokenHash] using other
    | claim _ _ _ leased =>
        have older := stale.1
        simp only [Option.all_some, leased, decide_eq_true_eq, ne_eq, Option.some.injEq]
        exact Nat.ne_of_gt older
    | report _ _ unleased => simp [unleased]
    | retry _ _ kept => simpa [kept] using other
    | resolve _ _ unleased => simp [unleased]

/-- Nothing touches a printed job. -/
theorem keeps_printed {job : PrintJob} (ran : entry ∈ run actions)
    (printed : job.status = .printed) (found : entry.before.printing.jobs.find? jobId = some job) :
    entry.after.printing.jobs.find? jobId = some job := by
  refine holds_job (P := fun other => other = some job) ran ?_ found
  rintro command now _ _ first second moved rfl
  cases moved.change with
  | tend tends => exact absurd printed tends.unprinted
  | claim _ pending => simp [printed] at pending
  | report _ processing => simp [printed] at processing
  | retry _ returned => simp [printed] at returned
  | resolve _ reviewed => simp [printed] at reviewed

/-- What is handed out was pending, is leased under a token that no job carried, and is held. -/
theorem HandsOut.effect (ran : entry ∈ run actions) (handsOut : entry.HandsOut jobId token) :
    (entry.before.printing.jobs.find? jobId).any (·.status = .pending) = true ∧
      (entry.after.printing.jobs.find? jobId).any isHeld = true ∧
      token < entry.after.nextId := by
  obtain ⟨deviceId, limit, locked, now, handed, value, asked, answer, rfl, claimed, job, given,
    rfl⟩ := handsOut
  obtain ⟨leaseToken, _, drawn, rest⟩ := commits_bind.mp (committed ran asked answer)
  obtain ⟨rfl, rfl⟩ := commits_freshId.mp drawn
  obtain ⟨_, _, handedOut, final⟩ := commits_bind.mp rest
  obtain ⟨other, ran, rfl⟩ := commits_printingTx.mp handedOut
  obtain ⟨rfl, rfl⟩ := commits_functional ran claimed
  obtain ⟨-, final⟩ := commits_pure.mp final
  obtain ⟨pending, leased, processing⟩ := of_mem_claimJobs claimed given
  refine ⟨pending, ?_, ?_⟩
  · rw [final]
    change (other.jobs.find? job.id).any isHeld = true
    simp [leased, isHeld, processing]
  · rw [final]
    exact Nat.lt_succ_self entry.before.nextId

/-- A program that aborts where the entry starts is answered by its failure. -/
theorem aborted {command : Command} {now : Timestamp} {failure : Failure}
    (ran : entry ∈ run actions) (asked : entry.event = .perform command now)
    (aborts : Aborts (command.execute now) entry.before failure) :
    entry.answer = .error failure ∧ entry.after = entry.before := by
  have recorded := eq_record_of_mem ran
  have failed : entry.event.execute entry.before = .error failure := by
    rw [asked]
    exact aborts
  rw [record_of_error failed] at recorded
  rw [recorded]
  exact ⟨rfl, rfl⟩

/-- The holder of a stale token is turned away. -/
theorem rejects (ran : entry ∈ run actions) (stale : Stale jobId token entry.before)
    (acknowledges : entry.event.Acknowledges jobId token) :
    entry.answer = .error staleLease ∧ entry.after = entry.before := by
  have queued := (RunEntry.reachable ran).queued
  cases asked : entry.event with
  | administer catalog reservations =>
      rw [asked] at acknowledges
      cases acknowledges
  | perform command now =>
      refine aborted ran asked ?_
      rw [asked] at acknowledges
      cases acknowledges with
      | complete deviceId => exact aborts_within.mpr (completeJob_stale queued stale.2)
      | fail deviceId error outcome =>
          exact aborts_bind.mpr (.inr ⟨_, _, commits_get.mpr ⟨rfl, rfl⟩,
            aborts_within.mpr (failJob_stale stale.2)⟩)

end RunEntry

section Fencing

variable {actions : List Action}

/-- Every entry between two others of a run ran. -/
theorem mem_run_of_split {first middle last : List RunEntry} {earlier later : RunEntry}
    (split : run actions = first ++ earlier :: (middle ++ later :: last)) :
    earlier ∈ run actions ∧ later ∈ run actions ∧ ∀ entry ∈ middle, entry ∈ run actions := by
  rw [split]
  refine ⟨by simp, by simp, ?_⟩
  intro entry membership
  simp [membership]

theorem handedAgain {first middle last : List RunEntry} {earlier later : RunEntry}
    {jobId token again : Id} (split : run actions = first ++ earlier :: (middle ++ later :: last))
    (handsOut : earlier.HandsOut jobId token) (handsAgain : later.HandsOut jobId again) :
    (∃ entry ∈ middle, entry.ReportsNotPrinted jobId) ∨
      ∃ front entry rest, middle = front ++ entry :: rest ∧ entry.ResolvesNotPrinted jobId ∧
        ∃ retry ∈ rest, retry.Retries jobId := by
  obtain ⟨earlierRan, laterRan, middleRan⟩ := mem_run_of_split split
  have held := (RunEntry.HandsOut.effect earlierRan handsOut).2.1
  have pending := (RunEntry.HandsOut.effect laterRan handsAgain).1
  by_contra neither
  push Not at neither
  obtain ⟨unreported, unretried⟩ := neither
  -- Without a report the job leaves its hold by a resolution, and waits for a retry.
  by_cases resolved : ∃ entry ∈ middle, entry.ResolvesNotPrinted jobId
  · obtain ⟨entry, inMiddle, resolves⟩ := resolved
    obtain ⟨front, rest, middleSplit⟩ := List.append_of_mem inMiddle
    have unqueued := RunEntry.ResolvesNotPrinted.unqueued (middleRan entry inMiddle) resolves
    have resplit : run actions =
        (first ++ earlier :: front) ++ entry :: (rest ++ later :: last) := by
      rw [split, middleSplit]
      simp
    have still := holds_until (P := fun database =>
      (database.printing.jobs.find? jobId).any (·.status ≠ .pending) = true) resplit unqueued
      fun other inRest unqueued => by
        have member : other ∈ middle := by
          rw [middleSplit]
          simp [inRest]
        exact RunEntry.keeps_unqueued (middleRan other member) (unreported other member)
          (unretried front entry rest middleSplit resolves other inRest) unqueued
    cases found : later.before.printing.jobs.find? jobId with
    | none => simp [found] at pending
    | some job => simp_all
  · push Not at resolved
    have still := holds_until (P := fun database =>
      (database.printing.jobs.find? jobId).any RunEntry.isHeld = true) split held
      fun entry inMiddle held => RunEntry.keeps_held (middleRan entry inMiddle)
        (unreported entry inMiddle) (resolved entry inMiddle) held
    cases found : later.before.printing.jobs.find? jobId with
    | none => simp [found] at pending
    | some job => simp_all [RunEntry.isHeld]

/-- A token that its job does not carry any more stays stale for the rest of the run. -/
theorem staleRejected {first middle last : List RunEntry} {issue late : RunEntry} {jobId token : Id}
    (split : run actions = first ++ issue :: (middle ++ late :: last))
    (handsOut : issue.HandsOut jobId token) (lost : ¬late.before.printing.HasLease jobId token) :
    ∀ entry ∈ late :: last, entry.event.Acknowledges jobId token →
      entry.answer = .error staleLease ∧ entry.after = entry.before := by
  obtain ⟨issueRan, lateRan, middleRan⟩ := mem_run_of_split split
  have drawn := (RunEntry.HandsOut.effect issueRan handsOut).2.2
  have older : token < late.before.nextId :=
    holds_until (P := fun database => token < database.nextId) split drawn
      fun entry inMiddle drawn => RunEntry.kept (P := fun database => token < database.nextId)
        (middleRan entry inMiddle) (fun after taken drawn => Nat.lt_of_lt_of_le drawn
          taken.nextId_le) drawn
  have stale : RunEntry.Stale jobId token late.before := by
    refine ⟨older, ?_⟩
    rw [Option.all_eq_true]
    intro job found
    simp only [decide_eq_true_eq, ne_eq]
    exact fun carried => lost ⟨job, found, carried⟩
  intro entry membership acknowledges
  rcases List.mem_cons.mp membership with rfl | inLast
  · exact RunEntry.rejects lateRan stale acknowledges
  · obtain ⟨between, rest, lastSplit⟩ := List.append_of_mem inLast
    have resplit : run actions =
        (first ++ issue :: middle) ++ late :: (between ++ entry :: rest) := by
      rw [split, lastSplit]
      simp
    obtain ⟨-, entryRan, betweenRan⟩ := mem_run_of_split resplit
    have still : RunEntry.Stale jobId token entry.before :=
      holds_until resplit (RunEntry.keeps_stale lateRan stale)
        fun other inBetween stale => RunEntry.keeps_stale (betweenRan other inBetween) stale
    exact RunEntry.rejects entryRan still acknowledges

/-- An acknowledgement that is repeated is accepted and changes nothing. -/
theorem acknowledgedAgain {first middle last : List RunEntry} {earlier later : RunEntry}
    {deviceId jobId token : Id} {now again : Timestamp}
    (split : run actions = first ++ earlier :: (middle ++ later :: last))
    (asked : earlier.event = .perform (.print (.completeJob deviceId jobId token)) now)
    (answer : earlier.answer = .ok ())
    (askedAgain : later.event = .perform (.print (.completeJob deviceId jobId token)) again) :
    later.answer = .ok () ∧ later.after = later.before := by
  obtain ⟨earlierRan, laterRan, middleRan⟩ := mem_run_of_split split
  obtain ⟨value, completed, final⟩ :=
    commits_printingTx.mp (RunEntry.committed earlierRan asked answer)
  obtain ⟨job, found, leased, printed⟩ := completeJob_printed completed
  have start : earlier.after.printing.jobs.find? jobId = some job := by
    rw [final]
    exact found
  have still : later.before.printing.jobs.find? jobId = some job :=
    holds_until (P := fun database => database.printing.jobs.find? jobId = some job) split start
      fun entry inMiddle found => RunEntry.keeps_printed (middleRan entry inMiddle) printed found
  have queued := (RunEntry.reachable laterRan).queued
  have accepted : Commits later.event.execute later.before () later.before := by
    rw [askedAgain]
    exact commits_printingTx.mpr ⟨_, completeJob_repeated queued still leased printed, rfl⟩
  have recorded := eq_record_of_mem laterRan
  rw [record_of_commits accepted] at recorded
  rw [recorded]
  exact ⟨rfl, rfl⟩

/-- The leases fence the jobs over every run of the backend. -/
theorem leaseFencing (actions : List Action) : LeaseFencing (run actions) where
  handedAgain _ _ _ _ _ _ _ _ split handsOut handsAgain := handedAgain split handsOut handsAgain
  stale _ _ _ _ _ _ _ split handsOut lost := staleRejected split handsOut lost
  repeated _ _ _ _ _ _ _ _ _ _ split asked answer askedAgain :=
    acknowledgedAgain split asked answer askedAgain
  tries entry ran job membership pending := by
    have start := (RunEntry.reachable ran).queued
    have queued : ∀ job ∈ entry.after.printing.jobs, job.Queued :=
      RunEntry.kept (P := fun database => ∀ job ∈ database.printing.jobs, job.Queued) ran
        (fun after taken _ => Reachable.queued ((RunEntry.reachable ran).tail taken)) start
    exact (queued job membership).2 pending

end Fencing

end CoffeeShop
