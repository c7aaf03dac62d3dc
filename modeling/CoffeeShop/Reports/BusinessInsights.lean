import CoffeeShop.Store.Basic
import Mathlib.Logic.Function.Basic
import Mathlib.Logic.Relation

/-!
Insights that a paid provider writes.

Every attempt at a job is a run of `process`, step by step from one await to the next.
Several runs may work on one insight, and any of them may stop anywhere.
-/

namespace CoffeeShop

inductive BusinessInsightStatus where
  | queued
  | processing
  | completed
  | failed
  deriving DecidableEq, Repr

variable {Snapshot Suggestions Analysis : Type}

structure BusinessInsight (Snapshot Analysis : Type) where
  requestHash : String
  requestedAt : Timestamp
  promptVersion : String
  status : BusinessInsightStatus
  snapshot : Option Snapshot
  analysis : Option Analysis
  errorCode : Option String
  providerStartedAt : Option Timestamp

structure BusinessInsightJobData (Snapshot : Type) where
  requestHash : String
  requestedAt : Timestamp
  promptVersion : String
  snapshot : Option Snapshot

structure BusinessInsightResult (Snapshot Analysis : Type) where
  snapshot : Snapshot
  analysis : Analysis

namespace BusinessInsights

def promptVersion : String := "business-finance-v3"

/-- `BUSINESS_INSIGHT_RETENTION_DAYS`, in milliseconds. -/
def retention : Nat := 7 * 86400000

def utcDay (now : Timestamp) : Nat := now / 86400000

/-- `attempts` of the jobs. -/
def attempts : Nat := 2

/-- The status filter of `start`, `complete` and `fail`. -/
def isOpen (insight : BusinessInsight Snapshot Analysis) : Bool :=
  insight.status = .queued || insight.status = .processing

/-- The row of `record`. -/
def recorded (data : BusinessInsightJobData Snapshot)
    (completed : Option (BusinessInsightResult Snapshot Analysis)) :
    BusinessInsight Snapshot Analysis where
  requestHash := data.requestHash
  requestedAt := data.requestedAt
  promptVersion := data.promptVersion
  status := if completed.isSome then .completed else .queued
  snapshot := (completed.map BusinessInsightResult.snapshot).orElse fun _ => data.snapshot
  analysis := completed.map BusinessInsightResult.analysis
  errorCode := none
  providerStartedAt := none

/-- `checkRequest`. -/
def passesRequest (now : Timestamp) (insight : BusinessInsight Snapshot Analysis)
    (requestHash : String) : Bool :=
  now < insight.requestedAt + retention && insight.requestHash = requestHash

def jobData (insight : BusinessInsight Snapshot Analysis) : BusinessInsightJobData Snapshot where
  requestHash := insight.requestHash
  requestedAt := insight.requestedAt
  promptVersion := insight.promptVersion
  snapshot := insight.snapshot

def start (snapshot : Snapshot) (insight : BusinessInsight Snapshot Analysis) :
    BusinessInsight Snapshot Analysis :=
  if isOpen insight then
    { insight with status := .processing, snapshot := some snapshot, errorCode := none }
  else insight

/-- The condition of `beginProvider`. -/
def mayBegin (insight : BusinessInsight Snapshot Analysis) : Bool :=
  insight.status = .processing && insight.providerStartedAt.isNone

def complete (result : BusinessInsightResult Snapshot Analysis)
    (insight : BusinessInsight Snapshot Analysis) : BusinessInsight Snapshot Analysis :=
  if isOpen insight then
    { insight with
      status := .completed
      snapshot := some result.snapshot
      analysis := some result.analysis
      errorCode := none }
  else insight

def fail (errorCode : String) (terminal : Bool) (insight : BusinessInsight Snapshot Analysis) :
    BusinessInsight Snapshot Analysis :=
  if isOpen insight then
    { insight with
      status := if terminal then .failed else .queued
      errorCode := if terminal then some errorCode else none }
  else insight

/-- A key with a count, which Redis drops when it expires. -/
structure Counter where
  count : Nat
  expiresAt : Timestamp

def readCounter (now : Timestamp) (counter : Option Counter) : Nat :=
  counter.elim 0 fun counter => if now < counter.expiresAt then counter.count else 0

/-- `INCR` and `EXPIRE` by two days. -/
def increment (now : Timestamp) (counter : Option Counter) : Counter where
  count := readCounter now counter + 1
  expiresAt := now + 172800000

/-- `ai:insights:request`. -/
structure AdmittedRequest where
  requestHash : String
  expiresAt : Timestamp

structure Job (Snapshot Analysis : Type) where
  data : BusinessInsightJobData Snapshot
  returnvalue : Option (BusinessInsightResult Snapshot Analysis)

/-- Where a run of `process` is. -/
inductive Progress (Snapshot Suggestions Analysis : Type) where
  | picked
  | checking (row : BusinessInsight Snapshot Analysis)
  | capturing
  | saving (snapshot : Snapshot)
  | starting (snapshot : Snapshot)
  | started (snapshot : Snapshot)
  | granted (snapshot : Snapshot) (day : Nat)
  | claimed (snapshot : Snapshot) (day : Nat)
  /-- `generate` has been called. -/
  | calling (snapshot : Snapshot)
  | resetting (errorCode : String) (unrecoverable : Bool)
  | completing (snapshot : Snapshot) (suggestions : Option Suggestions)
  | completed (result : BusinessInsightResult Snapshot Analysis)
  | failing (errorCode : String) (unrecoverable : Bool)

/-- An attempt at a job. -/
structure Run (Snapshot Suggestions Analysis : Type) where
  insight : Id
  attemptsMade : Nat
  data : BusinessInsightJobData Snapshot
  progress : Progress Snapshot Suggestions Analysis

/-- How the history learns of the end of a call. -/
inductive CallOutcome where
  | completed
  | reset
  deriving DecidableEq, Repr

/-- A call of `generate`. -/
structure ProviderCall where
  run : Id
  insight : Id
  /-- The day on which its budget was granted. -/
  day : Nat
  outcome : Option CallOutcome

/-- The result that a run has computed from its own snapshot. -/
structure Produced (Snapshot Suggestions : Type) where
  run : Id
  snapshot : Snapshot
  suggestions : Option Suggestions

structure Server (Snapshot Suggestions Analysis : Type) where
  clock : Timestamp
  insights : Id → Option (BusinessInsight Snapshot Analysis)
  jobs : Id → Option (Job Snapshot Analysis)
  admissions : Nat → Option Counter
  requests : Id → Option AdmittedRequest
  budgets : Nat → Option Counter
  /-- Requests that are admitted and not yet recorded. -/
  creating : List (Id × BusinessInsightJobData Snapshot)
  runs : Id → Option (Run Snapshot Suggestions Analysis)
  nextRun : Id
  -- what happened so far: the run that has claimed an insight, the grants, the calls, the results
  claims : Id → Option Id
  grants : List (Id × Nat)
  calls : List ProviderCall
  results : List (Produced Snapshot Suggestions)

/-- The checks of `process` before it works on the insight. -/
def refusal (now : Timestamp) (data : BusinessInsightJobData Snapshot)
    (row : BusinessInsight Snapshot Analysis) : Option String :=
  if data.promptVersion ≠ promptVersion then some "AI_VERSION_CHANGED"
  else if data.requestedAt + retention ≤ now then some "AI_JOB_EXPIRED"
  else if row.providerStartedAt.isSome then some "AI_OUTCOME_UNKNOWN"
  else none

/-- The snapshot of the row, or the one of the job. -/
def knownSnapshot (data : BusinessInsightJobData Snapshot)
    (row : BusinessInsight Snapshot Analysis) : Option Snapshot :=
  row.snapshot.orElse fun _ => data.snapshot

/-- An exception of the await leads to `fail`; that of `generate` leads to `resetProvider`. -/
def Progress.isInterruptible : Progress Snapshot Suggestions Analysis → Bool
  | .picked => false
  | .calling _ => false
  | .failing _ _ => false
  | _ => true

namespace Server

def moved (server : Server Snapshot Suggestions Analysis) (run : Id)
    (next : Option (Run Snapshot Suggestions Analysis)) : Server Snapshot Suggestions Analysis :=
  { server with runs := Function.update server.runs run next }

def changed (server : Server Snapshot Suggestions Analysis) (id : Id)
    (change : BusinessInsight Snapshot Analysis → BusinessInsight Snapshot Analysis) :
    Server Snapshot Suggestions Analysis :=
  { server with insights := Function.update server.insights id ((server.insights id).map change) }

def inserted (server : Server Snapshot Suggestions Analysis) (id : Id)
    (row : BusinessInsight Snapshot Analysis) : Server Snapshot Suggestions Analysis :=
  { server with insights := Function.update server.insights id (some row) }

def withJob (server : Server Snapshot Suggestions Analysis) (id : Id)
    (job : Option (Job Snapshot Analysis)) : Server Snapshot Suggestions Analysis :=
  { server with jobs := Function.update server.jobs id job }

/-- `CALL_BUDGET_SCRIPT` grants. -/
def grantedTo (server : Server Snapshot Suggestions Analysis) (run : Id) :
    Server Snapshot Suggestions Analysis :=
  let day := utcDay server.clock
  { server with
    budgets := Function.update server.budgets day
      (some (increment server.clock (server.budgets day)))
    grants := (run, day) :: server.grants }

/-- `beginProvider` has changed the row. -/
def claimedBy (server : Server Snapshot Suggestions Analysis) (id run : Id) :
    Server Snapshot Suggestions Analysis :=
  { server.changed id fun row => { row with providerStartedAt := some server.clock } with
    claims := Function.update server.claims id (some run) }

def called (server : Server Snapshot Suggestions Analysis) (run id day : Id) :
    Server Snapshot Suggestions Analysis :=
  { server with calls := server.calls ++ [{ run, insight := id, day, outcome := none }] }

def concluded (server : Server Snapshot Suggestions Analysis) (run : Id) (outcome : CallOutcome) :
    Server Snapshot Suggestions Analysis :=
  { server with
    calls := server.calls.map fun call =>
      if call.run = run ∧ call.outcome = none then { call with outcome := some outcome }
      else call }

/-- `resetProvider`. -/
def reset (server : Server Snapshot Suggestions Analysis) (id run : Id) :
    Server Snapshot Suggestions Analysis :=
  if (server.insights id).any fun row => row.status = .processing then
    let unmarked := server.changed id fun row => { row with providerStartedAt := none }
    { unmarked.concluded run .reset with
      claims := Function.update server.claims id none }
  else server

/-- `complete`. -/
def completedBy (server : Server Snapshot Suggestions Analysis) (id run : Id)
    (result : BusinessInsightResult Snapshot Analysis) : Server Snapshot Suggestions Analysis :=
  if (server.insights id).any isOpen then
    (server.changed id (complete result)).concluded run .completed
  else server

def produced (server : Server Snapshot Suggestions Analysis) (run : Id) (snapshot : Snapshot)
    (suggestions : Option Suggestions) : Server Snapshot Suggestions Analysis :=
  { server with results := { run, snapshot, suggestions } :: server.results }

end Server

variable (limit : Nat) (build : Snapshot → Option Suggestions → Analysis)
  (noInvoices : Snapshot → Bool)

/-- A step of a run of `process`. -/
inductive RunStep (before : Server Snapshot Suggestions Analysis) (run : Id)
    (current : Run Snapshot Suggestions Analysis) :
    Server Snapshot Suggestions Analysis → Prop where
  | findCompleted {row : BusinessInsight Snapshot Analysis} {snapshot : Snapshot}
      {analysis : Analysis} (picked : current.progress = .picked)
      (found : before.insights current.insight = some row) (status : row.status = .completed)
      (hasSnapshot : row.snapshot = some snapshot) (hasAnalysis : row.analysis = some analysis) :
      RunStep before run current
        (before.moved run (some { current with progress := .completed { snapshot, analysis } }))
  | findFailed {row : BusinessInsight Snapshot Analysis} (picked : current.progress = .picked)
      (found : before.insights current.insight = some row) (status : row.status = .failed) :
      RunStep before run current (before.moved run none)
  | findOpen {row : BusinessInsight Snapshot Analysis} (picked : current.progress = .picked)
      (found : before.insights current.insight = some row) (status : isOpen row = true) :
      RunStep before run current
        (before.moved run (some { current with progress := .checking row }))
  | record (picked : current.progress = .picked) (unknown : before.insights current.insight = none)
      (passes : passesRequest before.clock
        (recorded current.data none : BusinessInsight Snapshot Analysis)
        current.data.requestHash = true) :
      RunStep before run current
        ((before.inserted current.insight (recorded current.data none)).moved run
          (some { current with progress := .checking (recorded current.data none) }))
  | refuse {row : BusinessInsight Snapshot Analysis} {errorCode : String}
      (checking : current.progress = .checking row)
      (refused : refusal before.clock current.data row = some errorCode) :
      RunStep before run current
        (before.moved run (some { current with progress := .failing errorCode true }))
  | proceed {row : BusinessInsight Snapshot Analysis} (checking : current.progress = .checking row)
      (allowed : refusal before.clock current.data row = none) :
      RunStep before run current (before.moved run (some { current with
        progress := (knownSnapshot current.data row).elim .capturing .starting }))
  | capture (snapshot : Snapshot) (capturing : current.progress = .capturing) :
      RunStep before run current
        (before.moved run (some { current with progress := .saving snapshot }))
  | save {snapshot : Snapshot} (saving : current.progress = .saving snapshot) :
      RunStep before run current ((before.withJob current.insight
        ((before.jobs current.insight).map fun job =>
          { job with data := { current.data with snapshot := some snapshot } })).moved run
        (some { current with
          data := { current.data with snapshot := some snapshot }
          progress := .starting snapshot }))
  | start {snapshot : Snapshot} (starting : current.progress = .starting snapshot) :
      RunStep before run current ((before.changed current.insight (start snapshot)).moved run
        (some { current with progress := .started snapshot }))
  | withoutInvoices {snapshot : Snapshot} (started : current.progress = .started snapshot)
      (empty : noInvoices snapshot = true) :
      RunStep before run current ((before.produced run snapshot none).moved run
        (some { current with progress := .completing snapshot none }))
  | grant {snapshot : Snapshot} (started : current.progress = .started snapshot)
      (sold : noInvoices snapshot = false)
      (within : readCounter before.clock (before.budgets (utcDay before.clock)) < limit) :
      RunStep before run current ((before.grantedTo run).moved run
        (some { current with progress := .granted snapshot (utcDay before.clock) }))
  | spent {snapshot : Snapshot} (started : current.progress = .started snapshot)
      (sold : noInvoices snapshot = false)
      (exhausted : limit ≤ readCounter before.clock (before.budgets (utcDay before.clock))) :
      RunStep before run current
        (before.moved run (some { current with progress := .failing "AI_DAILY_LIMIT" true }))
  | claim {snapshot : Snapshot} {day : Nat} {row : BusinessInsight Snapshot Analysis}
      (granted : current.progress = .granted snapshot day)
      (found : before.insights current.insight = some row) (allowed : mayBegin row = true) :
      RunStep before run current ((before.claimedBy current.insight run).moved run
        (some { current with progress := .claimed snapshot day }))
  | unclaimed {snapshot : Snapshot} {day : Nat} (granted : current.progress = .granted snapshot day)
      (refused : (before.insights current.insight).any mayBegin = false) :
      RunStep before run current
        (before.moved run (some { current with progress := .failing "AI_OUTCOME_UNKNOWN" true }))
  | call {snapshot : Snapshot} {day : Nat} (claimed : current.progress = .claimed snapshot day) :
      RunStep before run current ((before.called run current.insight day).moved run
        (some { current with progress := .calling snapshot }))
  | answer {snapshot : Snapshot} (suggestions : Suggestions)
      (calling : current.progress = .calling snapshot) :
      RunStep before run current ((before.produced run snapshot (some suggestions)).moved run
        (some { current with progress := .completing snapshot (some suggestions) }))
  | error {snapshot : Snapshot} (errorCode : String) (unrecoverable : Bool)
      (calling : current.progress = .calling snapshot) :
      RunStep before run current
        (before.moved run (some { current with progress := .resetting errorCode unrecoverable }))
  | reset {errorCode : String} {unrecoverable : Bool}
      (resetting : current.progress = .resetting errorCode unrecoverable) :
      RunStep before run current ((before.reset current.insight run).moved run
        (some { current with progress := .failing errorCode unrecoverable }))
  | complete {snapshot : Snapshot} {suggestions : Option Suggestions}
      (completing : current.progress = .completing snapshot suggestions) :
      RunStep before run current ((before.completedBy current.insight run
        { snapshot, analysis := build snapshot suggestions }).moved run
        (some { current with
          progress := .completed { snapshot, analysis := build snapshot suggestions } }))
  | done {result : BusinessInsightResult Snapshot Analysis}
      (completed : current.progress = .completed result) :
      RunStep before run current ((before.withJob current.insight
        ((before.jobs current.insight).map fun job =>
          { job with returnvalue := some result })).moved run none)
  | interrupt (errorCode : String) (unrecoverable : Bool)
      (interruptible : current.progress.isInterruptible = true) :
      RunStep before run current
        (before.moved run (some { current with progress := .failing errorCode unrecoverable }))
  | fail {errorCode : String} {unrecoverable : Bool}
      (failing : current.progress = .failing errorCode unrecoverable) :
      RunStep before run current ((before.changed current.insight
        (fail errorCode (unrecoverable || attempts ≤ current.attemptsMade + 1))).moved run none)
  | crash : RunStep before run current (before.moved run none)

inductive Step (before : Server Snapshot Suggestions Analysis) :
    Server Snapshot Suggestions Analysis → Prop where
  | tick {clock : Timestamp} (later : before.clock ≤ clock) : Step before { before with clock }
  /-- `ADMIT_SCRIPT` for a new request. -/
  | admission {id : Id} {data : BusinessInsightJobData Snapshot} (unknown : before.insights id = none)
      (noJob : before.jobs id = none) (requested : data.requestedAt = before.clock)
      (version : data.promptVersion = promptVersion) (empty : data.snapshot = none)
      (new : ∀ previous, before.requests id = some previous →
        previous.expiresAt ≤ before.clock)
      (within : readCounter before.clock (before.admissions (utcDay before.clock)) < limit) :
      Step before { before with
        admissions := Function.update before.admissions (utcDay before.clock)
          (some (increment before.clock (before.admissions (utcDay before.clock))))
        requests := Function.update before.requests id
          (some { requestHash := data.requestHash, expiresAt := before.clock + retention })
        creating := (id, data) :: before.creating }
  /-- `ADMIT_SCRIPT` for a request that was admitted before. -/
  | admitAgain {id : Id} {data : BusinessInsightJobData Snapshot} {previous : AdmittedRequest}
      (unknown : before.insights id = none) (noJob : before.jobs id = none)
      (requested : data.requestedAt = before.clock) (version : data.promptVersion = promptVersion)
      (empty : data.snapshot = none) (known : before.requests id = some previous)
      (live : before.clock < previous.expiresAt) (same : previous.requestHash = data.requestHash) :
      Step before { before with creating := (id, data) :: before.creating }
  | create {id : Id} {data : BusinessInsightJobData Snapshot}
      (admitted : (id, data) ∈ before.creating)
      (unknown : before.insights id = none)
      (passes : passesRequest before.clock (recorded data none : BusinessInsight Snapshot Analysis)
        data.requestHash = true) :
      Step before (before.inserted id (recorded data none))
  /-- `dispatch`, which the outbox repeats. -/
  | dispatch {id : Id} {row : BusinessInsight Snapshot Analysis}
      (found : before.insights id = some row)
      (status : isOpen row = true) (live : before.clock < row.requestedAt + retention)
      (noJob : before.jobs id = none) :
      Step before (before.withJob id (some { data := jobData row, returnvalue := none }))
  /-- The queue drops a job. -/
  | forget (id : Id) : Step before (before.withJob id none)
  /-- `get` records the result of a job without a row. -/
  | recover {id : Id} {job : Job Snapshot Analysis}
      {result : BusinessInsightResult Snapshot Analysis}
      (unknown : before.insights id = none) (found : before.jobs id = some job)
      (returned : job.returnvalue = some result)
      (passes : passesRequest before.clock (recorded job.data (some result))
        job.data.requestHash = true) :
      Step before (before.inserted id (recorded job.data (some result)))
  | deliver {id : Id} {job : Job Snapshot Analysis} (attemptsMade : Nat)
      (found : before.jobs id = some job) :
      Step before { before.moved before.nextRun
        (some { insight := id, attemptsMade, data := job.data, progress := .picked }) with
        nextRun := before.nextRun + 1 }
  | process {run : Id} {current : Run Snapshot Suggestions Analysis}
      {after : Server Snapshot Suggestions Analysis} (running : before.runs run = some current)
      (taken : RunStep limit build noInvoices before run current after) : Step before after
  /-- The listener for jobs that have failed for good. -/
  | jobFailed (id : Id) (errorCode : String) : Step before (before.changed id (fail errorCode true))

abbrev Steps :
    Server Snapshot Suggestions Analysis → Server Snapshot Suggestions Analysis → Prop :=
  Relation.ReflTransGen (Step limit build noInvoices)

end BusinessInsights

end CoffeeShop
