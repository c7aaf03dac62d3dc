import CoffeeShop.Access.TokenFamilies

/-!
Password resets beside sign-ins and rotations, statement by statement.

A reset and a sign-in run at `READ COMMITTED`: a statement sees the rows that were
committed before it started, waits for a row that another transaction has locked, and
checks it again.  A rotation is serializable: it aborts when a row that it writes has
changed since its snapshot.  What a transaction has written stays with its worker until
it commits.
-/

namespace CoffeeShop

open Transaction AuthSessionService

/-- What a worker has done in its transaction. -/
inductive AuthTask where
  | idle
  /-- The reset has read its token. -/
  | resetFound (record : PasswordResetToken) (passwordHash : String) (now : Timestamp)
  | resetConsumed (record : PasswordResetToken) (passwordHash : String) (now : Timestamp)
  | resetUpdated (record : PasswordResetToken) (passwordHash : String) (now : Timestamp)
  /-- The last statement of the reset has the sessions of its snapshot before it, and has revoked
  some already. -/
  | resetRevoking (record : PasswordResetToken) (passwordHash : String) (now : Timestamp)
      (remaining revoked : List Id)
  /-- The rotation has read its session. -/
  | rotationRead (token : RefreshToken) (session : AuthSession) (now : Timestamp)
  | rotationConsumed (token : RefreshToken) (session : AuthSession) (now : Timestamp)
  /-- The sign-in holds the employee `FOR SHARE`. -/
  | signInVerified (employeeId : Id) (email : String) (now : Timestamp)

namespace AuthTask

/-- The transaction has written the reset token. -/
def locksResetToken (id : Id) : AuthTask → Bool
  | resetConsumed record _ _ | resetUpdated record _ _ | resetRevoking record _ _ _ _ =>
      record.id = id
  | _ => false

/-- The transaction has written the employee, which excludes `FOR SHARE`. -/
def updatesEmployee (id : Id) : AuthTask → Bool
  | resetUpdated record _ _ | resetRevoking record _ _ _ _ => record.employeeId = id
  | _ => false

def sharesEmployee (id : Id) : AuthTask → Bool
  | signInVerified employeeId _ _ => employeeId = id
  | _ => false

/-- The transaction has written the session. -/
def locksSession (id : Id) : AuthTask → Bool
  | resetRevoking _ _ _ _ revoked => id ∈ revoked
  | rotationConsumed _ session _ => session.id = id
  | _ => false

/-- The statement of a reset that revokes the sessions of the employee has rows before it. -/
def isRevoking (employeeId : Id) : AuthTask → Bool
  | resetRevoking record _ _ remaining _ => record.employeeId = employeeId && !remaining.isEmpty
  | _ => false

end AuthTask

namespace PasswordResetService

/-- What the commit of `resetPassword` makes visible. -/
def commitReset (record : PasswordResetToken) (passwordHash : String) (revoked : List Id)
    (now : Timestamp) : Tx AccessStore Failure Unit := do
  let _ ← updateMany passwordResetToken (fun row => row.id = record.id)
    (fun row => { row with usedAt := some now }) (PasswordResetToken.id_used now)
  let _ ← updateMany accessEmployee (fun row => row.id = record.employeeId)
    (fun row => { row with password := passwordHash, updatedAt := now })
    (EmployeeAccount.id_withPassword passwordHash now)
  let _ ← updateMany authSession (fun session => session.id ∈ revoked)
    (fun session => { session with
      revokedAt := some now
      revokeReason := some .passwordReset })
    (AuthSession.id_revoked now .passwordReset)

end PasswordResetService

namespace AuthSessionService

/-- What the commit of a rotation makes visible. -/
def commitRotation (token : RefreshToken) (now : Timestamp) : Tx AccessStore Failure Unit := do
  let nextSessionId ← AccessStore.freshId
  let _ ← updateMany authSession (fun session => session.id = token.sid)
    (fun session => { session with
      revokedAt := some now
      lastUsedAt := some now
      revokeReason := some .refreshRotated })
    (AuthSession.id_rotated now)
  let next := refreshToken token.sub token.email nextSessionId token.familyId now
  sign next
  create authSession (newSession next now) (.constraint "AuthSession_pkey")

/-- What the commit of a sign-in makes visible. -/
def commitSignIn (employeeId : Id) (email : String) (now : Timestamp) :
    Tx AccessStore Failure Unit := do
  let sessionId ← AccessStore.freshId
  let familyId ← AccessStore.freshId
  let token := refreshToken employeeId email sessionId familyId now
  sign token
  create authSession (newSession token now) (.constraint "AuthSession_pkey")

end AuthSessionService

section Uninterrupted

variable {store after : AccessStore} {now : Timestamp}

/-- The sessions of the employee that are not revoked. -/
def AccessStore.openSessions (store : AccessStore) (employeeId : Id) : List Id :=
  (store.sessions.select fun session =>
    session.employeeId = employeeId && session.revokedAt.isNone).map (·.id)

theorem AccessStore.mem_openSessions {employeeId id : Id} :
    id ∈ store.openSessions employeeId ↔ ∃ session ∈ store.sessions,
      session.employeeId = employeeId ∧ session.revokedAt = none ∧ session.id = id := by
  simp [openSessions, and_assoc]

/-- A reset that nothing interrupts revokes what its last statement finds. -/
theorem resetPassword_uninterrupted {tokenHash : Id} {passwordHash : String}
    (committed : Commits (PasswordResetService.resetPassword tokenHash passwordHash now) store ()
      after) :
    ∃ record ∈ store.resetTokens, record.tokenHash = tokenHash ∧
      PasswordResetService.isUsable store now record = true ∧
      Commits (PasswordResetService.commitReset record passwordHash
        (store.openSessions record.employeeId) now) store () after := by
  simp only [PasswordResetService.resetPassword, EmployeesService.revokeSessions, commits_bind,
    commits_get, commits_findFirstOrFail, commits_updateMany, commits_pure] at committed
  obtain ⟨_, _, ⟨rfl, rfl⟩, record, start, ⟨found, rfl⟩, _, _, consumed, _, _, written, _, _,
    ⟨-, rfl⟩, -, rfl⟩ := committed
  obtain ⟨known, holds⟩ := Table.mem_of_first? found
  simp only [Bool.and_eq_true, decide_eq_true_eq] at holds
  refine ⟨record, known, holds.1, holds.2, ?_⟩
  obtain ⟨-, rfl⟩ := commits_updateExpecting.mp consumed
  obtain ⟨-, rfl⟩ := commits_updateExpecting.mp written
  simp only [PasswordResetService.commitReset, commits_bind, commits_updateMany, commits_pure]
  refine ⟨_, _, ⟨rfl, rfl⟩, _, _, ⟨rfl, rfl⟩, _, _, ⟨rfl, rfl⟩, trivial, ?_⟩
  simp only [passwordResetToken, accessEmployee, authSession, Bool.and_true]
  congr 1
  · apply Table.update_congr
    intro session member
    rw [Bool.eq_iff_iff]
    simp only [Bool.and_eq_true, decide_eq_true_eq, Option.isNone_iff_eq_none,
      AccessStore.mem_openSessions]
    constructor
    · rintro ⟨employee, open_⟩
      exact ⟨session, member, employee, open_, rfl⟩
    · rintro ⟨other, known, employee, open_, same⟩
      obtain rfl := Table.eq_of_key_eq known member same
      exact ⟨employee, open_⟩
  · apply Table.update_congr
    intro row member
    by_cases same : row.id = record.id
    · obtain rfl := Table.eq_of_key_eq member known same
      have usable := holds.2
      simp only [PasswordResetService.isUsable, Bool.and_eq_true] at usable
      simp [usable.1]
    · simp [same]

/-- A rotation that nothing interrupts replaces the session of its token. -/
theorem rotate_uninterrupted {token next : RefreshToken}
    (committed : Commits (rotate token now) store (some next) after) :
    ∃ session, store.sessions.find? token.sid = some session ∧
      isValid store token now session = true ∧ Commits (commitRotation token now) store () after := by
  simp only [rotate, commits_bind, commits_get, commits_require, commits_findUnique] at committed
  obtain ⟨_, _, ⟨rfl, rfl⟩, _, _, ⟨-, rfl⟩, current, start, ⟨found, rfl⟩, rotated⟩ := committed
  split at rotated
  case isFalse => cases (commits_pure.mp rotated).1
  case isTrue valid =>
    cases current with
    | none => cases valid
    | some session =>
        have known := Table.mem_of_find? found.symm
        have own := Table.find?_key found.symm
        refine ⟨session, found.symm, valid, ?_⟩
        simp only [commits_bind, AccessStore.commits_freshId, commits_updateMany] at rotated
        obtain ⟨_, _, ⟨rfl, rfl⟩, count, _, ⟨-, rfl⟩, created⟩ := rotated
        split at created
        case isFalse => cases (commits_pure.mp created).1
        case isTrue =>
          simp only [Option.any_some, isValid, Bool.and_eq_true, decide_eq_true_eq] at valid
          have consumes : ∀ row ∈ start.sessions, (decide (row.id = token.sid) &&
              (row.isUsable now && decide (row.refreshTokenHash = token))) =
                decide (row.id = token.sid) := by
            intro row member
            by_cases same : row.id = token.sid
            · obtain rfl := Table.eq_of_key_eq member known (same.trans own.symm)
              simp [valid]
            · simp [same]
          simp only [commits_bind, sign, commits_modify, commits_create, commits_pure, authSession,
            Table.update_congr consumes] at created
          obtain ⟨_, _, rfl, _, _, ⟨sessions, inserted, rfl⟩, -, rfl⟩ := created
          simp only [commitRotation, commits_bind, sign, AccessStore.commits_freshId,
            commits_updateMany, commits_modify, commits_create, authSession]
          exact ⟨_, _, ⟨rfl, rfl⟩, _, _, ⟨rfl, rfl⟩, (), _, rfl, sessions, inserted, rfl⟩

end Uninterrupted

/-- The committed rows, and the transactions of the workers. -/
structure AuthWorkers where
  store : AccessStore
  clock : Timestamp
  tasks : Nat → AuthTask

/-- What others may depend on in a step. -/
inductive AuthEvent where
  | rotated (employeeId : Id)
  | reset (employeeId : Id)
  | other

namespace AuthWorkers

def assign (state : AuthWorkers) (worker : Nat) (task : AuthTask) : AuthWorkers :=
  { state with tasks := Function.update state.tasks worker task }

/-- The worker does not have to wait for the lock of another. -/
def Free (state : AuthWorkers) (worker : Nat) (lock : AuthTask → Bool) : Prop :=
  ∀ other, other ≠ worker → lock (state.tasks other) = false

inductive Step (before : AuthWorkers) : AuthEvent → AuthWorkers → Prop where
  | tick {clock : Timestamp} (passes : before.clock ≤ clock) :
      Step before .other { before with clock }
  /-- A crash, a time-out, a failed check or a serialization failure. -/
  | abort (worker : Nat) : Step before .other (before.assign worker .idle)
  | findResetToken {worker : Nat} {record : PasswordResetToken} (passwordHash : String)
      (idle : before.tasks worker = .idle) (known : record ∈ before.store.resetTokens)
      (usable : PasswordResetService.isUsable before.store before.clock record = true) :
      Step before .other (before.assign worker (.resetFound record passwordHash before.clock))
  | consumeResetToken {worker : Nat} {record row : PasswordResetToken} {passwordHash : String}
      {now : Timestamp} (task : before.tasks worker = .resetFound record passwordHash now)
      (free : before.Free worker (AuthTask.locksResetToken record.id))
      (found : before.store.resetTokens.find? record.id = some row)
      (unused : row.usedAt = none) (lasts : now < row.expiresAt) :
      Step before .other (before.assign worker (.resetConsumed record passwordHash now))
  | updateEmployee {worker : Nat} {record : PasswordResetToken} {passwordHash : String}
      {now : Timestamp} (task : before.tasks worker = .resetConsumed record passwordHash now)
      (free : before.Free worker (AuthTask.updatesEmployee record.employeeId))
      (unshared : before.Free worker (AuthTask.sharesEmployee record.employeeId))
      (found : (before.store.employees.find? record.employeeId).isSome = true) :
      Step before .other (before.assign worker (.resetUpdated record passwordHash now))
  /-- The snapshot of the last statement of the reset. -/
  | revokeSessions {worker : Nat} {record : PasswordResetToken} {passwordHash : String}
      {now : Timestamp} (task : before.tasks worker = .resetUpdated record passwordHash now) :
      Step before .other (before.assign worker (.resetRevoking record passwordHash now
        (before.store.openSessions record.employeeId) []))
  /-- The statement gets to a row of its snapshot, once no other transaction holds it. -/
  | visitSession {worker : Nat} {record : PasswordResetToken} {passwordHash : String}
      {now : Timestamp} {remaining revoked : List Id} {id : Id}
      (task : before.tasks worker = .resetRevoking record passwordHash now remaining revoked)
      (listed : id ∈ remaining) (free : before.Free worker (AuthTask.locksSession id)) :
      Step before .other (before.assign worker (.resetRevoking record passwordHash now
        (remaining.filter (· ≠ id))
        (if id ∈ before.store.openSessions record.employeeId then id :: revoked else revoked)))
  | commitReset {worker : Nat} {record : PasswordResetToken} {passwordHash : String}
      {now : Timestamp} {revoked : List Id} {store : AccessStore}
      (task : before.tasks worker = .resetRevoking record passwordHash now [] revoked)
      (committed : Commits (PasswordResetService.commitReset record passwordHash revoked now)
        before.store () store) :
      Step before (.reset record.employeeId) ({ before with store }.assign worker .idle)
  | readSession {worker : Nat} {token : RefreshToken} {session : AuthSession}
      (idle : before.tasks worker = .idle)
      (verified : isVerified before.store token before.clock = true)
      (found : before.store.sessions.find? token.sid = some session)
      (valid : isValid before.store token before.clock session = true) :
      Step before .other (before.assign worker (.rotationRead token session before.clock))
  | consumeSession {worker : Nat} {token : RefreshToken} {session : AuthSession}
      {now : Timestamp} (task : before.tasks worker = .rotationRead token session now)
      (free : before.Free worker (AuthTask.locksSession session.id))
      (unchanged : before.store.sessions.find? session.id = some session) :
      Step before .other (before.assign worker (.rotationConsumed token session now))
  | commitRotation {worker : Nat} {token : RefreshToken} {session : AuthSession}
      {now : Timestamp} {store : AccessStore}
      (task : before.tasks worker = .rotationConsumed token session now)
      (committed : Commits (commitRotation token now) before.store () store) :
      Step before (.rotated session.employeeId) ({ before with store }.assign worker .idle)
  /-- The transaction after a refused rotation or of a logout, none of whose rows is held. -/
  | revokeFamily {employeeId familyId : Id} {reason : SessionRevokeReason} {store : AccessStore}
      (free : ∀ session ∈ before.store.sessions, isOpen employeeId familyId session = true →
        ∀ worker, (before.tasks worker).locksSession session.id = false)
      (committed : Commits (revokeFamily employeeId familyId reason before.clock) before.store ()
        store) :
      Step before .other { before with store }
  | verifySignIn {worker : Nat} {employee : EmployeeAccount} (proof : SignInProof)
      (proved : proof ≠ .none) (idle : before.tasks worker = .idle)
      (free : before.Free worker (AuthTask.updatesEmployee employee.id))
      (known : employee ∈ before.store.employees) (accepted : proof.accepts employee = true) :
      Step before .other
        (before.assign worker (.signInVerified employee.id employee.email before.clock))
  | commitSignIn {worker : Nat} {employeeId : Id} {email : String} {now : Timestamp}
      {store : AccessStore} (task : before.tasks worker = .signInVerified employeeId email now)
      (committed : Commits (commitSignIn employeeId email now) before.store () store) :
      Step before .other ({ before with store }.assign worker .idle)

/-- No rotation of a session of an employee commits while the last statement of a reset for the
employee runs. -/
def Undisturbed (before : AuthWorkers) : AuthEvent → Prop
  | .rotated employeeId => ∀ worker, (before.tasks worker).isRevoking employeeId = false
  | .reset _ | .other => True

/-- Any steps. -/
abbrev Run : AuthWorkers → AuthWorkers → Prop :=
  Relation.ReflTransGen fun before after => ∃ event, Step before event after

/-- Steps that meet the condition. -/
abbrev UndisturbedRun : AuthWorkers → AuthWorkers → Prop :=
  Relation.ReflTransGen fun before after =>
    ∃ event, Step before event after ∧ before.Undisturbed event

/-- No transaction is open. -/
def ofServer (server : AuthServer) : AuthWorkers where
  store := server.store
  clock := server.clock
  tasks _ := .idle

end AuthWorkers

end CoffeeShop
