import CoffeeShop.Access.ResetRaces

/-!
Which sessions outlive a password reset.
-/

namespace CoffeeShop

open Transaction AuthSessionService

open AuthWorkers

/-- Some sessions end, and nothing else happens to the sessions. -/
structure AccessStore.Ending (condition : AuthSession → Bool) (store after : AccessStore) : Prop where
  nextId : after.nextId = store.nextId
  former : ∀ session ∈ after.sessions, ∃ former ∈ store.sessions, session.id = former.id ∧
    session.familyId = former.familyId ∧ session.employeeId = former.employeeId ∧
      (session.revokedAt = none → session = former ∧ condition former = false)
  kept : ∀ session ∈ store.sessions, condition session = false → session ∈ after.sessions

/-- A session is new, in a family of its employee or in a new one. -/
structure AccessStore.Opening (token : RefreshToken) (now : Timestamp) (store after : AccessStore) :
    Prop where
  inserted : store.sessions.insert? (newSession token now) = some after.sessions
  nextId : store.nextId ≤ after.nextId
  sid : token.sid < after.nextId
  familyId : token.familyId < after.nextId
  owned : ∀ session ∈ store.sessions, session.familyId = token.familyId →
    session.employeeId = token.sub

namespace AccessStore

variable {store middle after : AccessStore} {condition : AuthSession → Bool} {now : Timestamp}
variable {token : RefreshToken} {familyId employeeId id : Id}

theorem Ending.update {change : AuthSession → AuthSession} (keeps : ∀ row, (change row).id = row.id)
    (ends : ∀ row : AuthSession, row.Ends (change row))
    (sessions : after.sessions = store.sessions.update condition change keeps)
    (nextId : after.nextId = store.nextId) : Ending condition store after where
  nextId := nextId
  former session member := by
    rw [sessions] at member
    obtain ⟨former, known, id, family, employee, -, -, open_⟩ :=
      IssuedSessions.mem_ended keeps ends member
    exact ⟨former, known, id, family, employee, open_⟩
  kept session member unmet := by
    rw [sessions, Table.mem_update_iff]
    exact .inr ⟨member, unmet⟩

theorem Ending.openSessions (ending : Ending condition store after)
    (member : id ∈ after.openSessions employeeId) :
    id ∈ store.openSessions employeeId := by
  obtain ⟨session, inStore, employee, open_, own⟩ := mem_openSessions.mp member
  obtain ⟨former, known, -, -, -, same⟩ := ending.former session inStore
  obtain ⟨rfl, -⟩ := same open_
  exact mem_openSessions.mpr ⟨session, known, employee, open_, own⟩

theorem Opening.openSessions (opening : Opening token now store after)
    (member : id ∈ after.openSessions employeeId) :
    id ∈ store.openSessions employeeId ∨ employeeId = token.sub := by
  obtain ⟨session, inStore, employee, open_, own⟩ := mem_openSessions.mp member
  rcases (Table.mem_insert? opening.inserted).mp inStore with known | rfl
  · exact .inl (mem_openSessions.mpr ⟨session, known, employee, open_, own⟩)
  · exact .inr employee.symm

/-- Every session of the family is revoked, and the family is not to come. -/
def Revoked (store : AccessStore) (familyId : Id) : Prop :=
  familyId < store.nextId ∧
    ∀ session ∈ store.sessions, session.familyId = familyId → session.revokedAt.isSome = true

theorem Revoked.ending (revoked : store.Revoked familyId) (ending : Ending condition store after) :
    after.Revoked familyId := by
  refine ⟨ending.nextId ▸ revoked.1, fun session member own => ?_⟩
  obtain ⟨former, known, -, family, -, same⟩ := ending.former session member
  cases open_ : session.revokedAt with
  | some => rfl
  | none =>
      obtain ⟨rfl, -⟩ := same open_
      have ended := revoked.2 session known own
      rw [open_] at ended
      cases ended

theorem Revoked.opening (revoked : store.Revoked familyId) (opening : Opening token now store after)
    (other : token.familyId ≠ familyId) : after.Revoked familyId := by
  refine ⟨revoked.1.trans_le opening.nextId, fun session member own => ?_⟩
  rcases (Table.mem_insert? opening.inserted).mp member with known | rfl
  · exact revoked.2 session known own
  · exact (other own).elim

/-- The ids are drawn, and a family belongs to one employee. -/
structure Owned (store : AccessStore) : Prop where
  drawn : ∀ session ∈ store.sessions, session.id < store.nextId ∧ session.familyId < store.nextId
  owned : ∀ session ∈ store.sessions, ∀ other ∈ store.sessions,
    session.familyId = other.familyId → session.employeeId = other.employeeId

theorem Owned.ending (owned : store.Owned) (ending : Ending condition store after) :
    after.Owned where
  drawn session member := by
    obtain ⟨former, known, id, family, -, -⟩ := ending.former session member
    rw [id, family, ending.nextId]
    exact owned.drawn former known
  owned session member other otherMember same := by
    obtain ⟨former, known, -, family, employee, -⟩ := ending.former session member
    obtain ⟨previous, alsoKnown, -, otherFamily, otherEmployee, -⟩ :=
      ending.former other otherMember
    rw [employee, otherEmployee]
    exact owned.owned former known previous alsoKnown (by rw [← family, ← otherFamily, same])

theorem Owned.opening (owned : store.Owned) (opening : Opening token now store after) :
    after.Owned where
  drawn session member := by
    rcases (Table.mem_insert? opening.inserted).mp member with known | rfl
    · have earlier := owned.drawn session known
      exact ⟨earlier.1.trans_le opening.nextId, earlier.2.trans_le opening.nextId⟩
    · exact ⟨opening.sid, opening.familyId⟩
  owned session member other otherMember same := by
    rcases (Table.mem_insert? opening.inserted).mp member with known | rfl
    · rcases (Table.mem_insert? opening.inserted).mp otherMember with alsoKnown | rfl
      · exact owned.owned session known other alsoKnown same
      · exact opening.owned session known same
    · rcases (Table.mem_insert? opening.inserted).mp otherMember with alsoKnown | rfl
      · exact (opening.owned other alsoKnown same.symm).symm
      · rfl

theorem ending_commitReset {record : PasswordResetToken} {passwordHash : String} {revoked : List Id}
    (committed : Commits (PasswordResetService.commitReset record passwordHash revoked now) store ()
      after) : Ending (fun session => session.id ∈ revoked) store after := by
  simp only [PasswordResetService.commitReset, commits_bind, commits_updateMany,
    commits_pure] at committed
  obtain ⟨_, _, ⟨-, rfl⟩, _, _, ⟨-, rfl⟩, _, _, ⟨-, rfl⟩, -, rfl⟩ := committed
  exact Ending.update (by intro; rfl) (fun _ => SessionSteps.ends_revoked) rfl rfl

theorem ending_revokeFamily {reason : SessionRevokeReason}
    (committed : Commits (revokeFamily employeeId familyId reason now) store () after) :
    Ending (isOpen employeeId familyId) store after := by
  simp only [revokeFamily, commits_bind, commits_updateMany, commits_pure] at committed
  obtain ⟨_, _, ⟨-, rfl⟩, -, rfl⟩ := committed
  exact Ending.update (by intro; rfl) (fun _ => SessionSteps.ends_revoked) rfl rfl

theorem opening_commitSignIn {email : String} (owned : store.Owned)
    (committed : Commits (commitSignIn employeeId email now) store () after) :
    ∃ token, token.sub = employeeId ∧ token.familyId = store.nextId + 1 ∧
      Opening token now store after := by
  simp only [commitSignIn, sign, commits_bind, commits_freshId, commits_modify,
    commits_create] at committed
  obtain ⟨sessionId, _, ⟨drawn, rfl⟩, another, _, ⟨alsoDrawn, rfl⟩, _, _, rfl, sessions, inserted,
    rfl⟩ := committed
  refine ⟨_, rfl, alsoDrawn, ⟨inserted, ?_, ?_, ?_, ?_⟩⟩
  · exact Nat.le_add_right _ 2
  · change sessionId < store.nextId + 1 + 1
    rw [drawn]
    exact Nat.lt_add_of_pos_right Nat.two_pos
  · simp [refreshToken, alsoDrawn]
  · intro session member same
    have earlier := (owned.drawn session member).2
    simp only [refreshToken, alsoDrawn] at same
    lia

theorem opening_commitRotation {session : AuthSession} (owned : store.Owned)
    (known : session ∈ store.sessions) (holds : session.Holds token)
    (committed : Commits (commitRotation token now) store () after) :
    ∃ middle next, Ending (fun row => row.id = token.sid) store middle ∧ next.sub = token.sub ∧
      next.familyId = token.familyId ∧ Opening next now middle after := by
  simp only [commitRotation, sign, commits_bind, commits_freshId, commits_updateMany,
    commits_modify, commits_create] at committed
  obtain ⟨sessionId, _, ⟨drawn, rfl⟩, _, _, ⟨-, rfl⟩, _, _, rfl, sessions, inserted, rfl⟩ :=
    committed
  have ending : Ending (fun row => row.id = token.sid) store { store with
      sessions := store.sessions.update (fun row => row.id = token.sid) fun row => { row with
        revokedAt := some now
        lastUsedAt := some now
        revokeReason := some .refreshRotated } } :=
    Ending.update (by intro; rfl) (fun _ => SessionSteps.ends_rotated) rfl rfl
  refine ⟨_, refreshToken token.sub token.email sessionId token.familyId now, ending, rfl, rfl,
    ⟨inserted, ?_, ?_, ?_, ?_⟩⟩
  · exact Nat.le_succ _
  · simp [refreshToken, drawn]
  · have earlier := (owned.drawn session known).2
    rw [holds.familyId] at earlier
    exact Nat.lt_succ_of_lt earlier
  · intro other member same
    obtain ⟨former, alsoKnown, -, family, employee, -⟩ := ending.former other member
    rw [employee]
    refine (owned.owned former alsoKnown session known ?_).trans holds.employeeId
    exact (family.symm.trans same).trans holds.familyId.symm

end AccessStore

namespace AuthTask

/-- What a task relies on. -/
def Sound (store : AccessStore) : AuthTask → Prop
  | rotationRead token session _ => session.Holds token ∧ session.revokedAt = none
  | rotationConsumed token session _ =>
      (session.Holds token ∧ session.revokedAt = none) ∧ session ∈ store.sessions
  | resetRevoking record _ _ remaining revoked =>
      ∀ id ∈ store.openSessions record.employeeId, id ∈ remaining ∨ id ∈ revoked
  | _ => True

/-- A task does not see what others commit beside its locks. -/
theorem Sound.mono {store after : AccessStore} {task : AuthTask} (sound : task.Sound store)
    (kept : ∀ session ∈ store.sessions, task.locksSession session.id = true →
      session ∈ after.sessions)
    (opens : ∀ record passwordHash now remaining revoked,
      task = .resetRevoking record passwordHash now remaining revoked →
        ∀ id ∈ after.openSessions record.employeeId, id ∈ store.openSessions record.employeeId) :
    task.Sound after := by
  cases task with
  | rotationRead => exact sound
  | rotationConsumed token session now =>
      exact ⟨sound.1, kept session sound.2 (by simp [locksSession])⟩
  | resetRevoking record passwordHash now remaining revoked =>
      exact fun id member => sound id (opens record passwordHash now remaining revoked rfl id member)
  | idle | resetFound | resetConsumed | resetUpdated | signInVerified => trivial

end AuthTask

namespace AuthWorkers

/-- What holds between the statements of the transactions. -/
structure Sound (state : AuthWorkers) : Prop where
  rows : state.store.Owned
  tasks : ∀ worker, (state.tasks worker).Sound state.store
  sessionLocks : ∀ worker id, (state.tasks worker).locksSession id = true →
    state.Free worker (AuthTask.locksSession id)
  employeeLocks : ∀ worker id, (state.tasks worker).updatesEmployee id = true →
    state.Free worker (AuthTask.updatesEmployee id) ∧
      state.Free worker (AuthTask.sharesEmployee id)

variable {state before after later : AuthWorkers} {worker : Nat} {task : AuthTask}

/-- A statement that only its own worker sees. -/
theorem Sound.assign (sound : state.Sound) (own : task.Sound state.store)
    (sessions : ∀ id, task.locksSession id = true → state.Free worker (AuthTask.locksSession id))
    (updates : ∀ id, task.updatesEmployee id = true →
      state.Free worker (AuthTask.updatesEmployee id) ∧
        state.Free worker (AuthTask.sharesEmployee id))
    (shares : ∀ id, task.sharesEmployee id = true →
      state.Free worker (AuthTask.updatesEmployee id)) :
    (state.assign worker task).Sound where
  rows := sound.rows
  tasks other := by
    by_cases same : other = worker
    · subst same
      simpa [AuthWorkers.assign] using own
    · simpa [AuthWorkers.assign, same] using sound.tasks other
  sessionLocks holder id locks other differs := by
    by_cases same : holder = worker
    · subst same
      simp only [AuthWorkers.assign, Function.update_self] at locks
      simpa [AuthWorkers.assign, differs] using sessions id locks other differs
    · simp only [AuthWorkers.assign, ne_eq, same, not_false_eq_true,
        Function.update_of_ne] at locks
      by_cases own : other = worker
      · subst own
        simp only [AuthWorkers.assign, Function.update_self]
        refine Bool.eq_false_iff.mpr fun held => ?_
        have free := sessions id held holder same
        rw [locks] at free
        cases free
      · simpa [AuthWorkers.assign, own] using sound.sessionLocks holder id locks other differs
  employeeLocks holder id locks := by
    by_cases same : holder = worker
    · subst same
      simp only [AuthWorkers.assign, Function.update_self] at locks
      obtain ⟨unlocked, unshared⟩ := updates id locks
      exact ⟨fun other differs => by simpa [AuthWorkers.assign, differs] using unlocked other differs,
        fun other differs => by simpa [AuthWorkers.assign, differs] using unshared other differs⟩
    · simp only [AuthWorkers.assign, ne_eq, same, not_false_eq_true,
        Function.update_of_ne] at locks
      obtain ⟨unlocked, unshared⟩ := sound.employeeLocks holder id locks
      constructor
      · intro other differs
        by_cases own : other = worker
        · subst own
          simp only [AuthWorkers.assign, Function.update_self]
          refine Bool.eq_false_iff.mpr fun held => ?_
          have free := (updates id held).1 holder same
          rw [locks] at free
          cases free
        · simpa [AuthWorkers.assign, own] using unlocked other differs
      · intro other differs
        by_cases own : other = worker
        · subst own
          simp only [AuthWorkers.assign, Function.update_self]
          refine Bool.eq_false_iff.mpr fun held => ?_
          have free := shares id held holder same
          rw [locks] at free
          cases free
        · simpa [AuthWorkers.assign, own] using unshared other differs

theorem Sound.release (sound : state.Sound) : (state.assign worker .idle).Sound := by
  apply sound.assign
  · trivial
  · intro id locks
    cases locks
  · intro id locks
    cases locks
  · intro id locks
    cases locks

/-- A commit that the other workers do not notice. -/
theorem Sound.commit {store : AccessStore} (sound : state.Sound)
    (rows : store.Owned)
    (tasks : ∀ other, other ≠ worker → (state.tasks other).Sound store) :
    ({ state with store }.assign worker .idle).Sound where
  rows := rows
  tasks other := by
    by_cases same : other = worker
    · subst same
      simp [AuthWorkers.assign, AuthTask.Sound]
    · simpa [AuthWorkers.assign, same] using tasks other same
  sessionLocks := sound.release.sessionLocks
  employeeLocks := sound.release.employeeLocks

/-- A statement that keeps the locks of its transaction. -/
theorem Sound.proceed (sound : state.Sound) (own : task.Sound state.store)
    (sessions : ∀ id, task.locksSession id = true →
      (state.tasks worker).locksSession id = true ∨
        state.Free worker (AuthTask.locksSession id))
    (updates : ∀ id, task.updatesEmployee id = true →
      (state.tasks worker).updatesEmployee id = true)
    (shares : ∀ id, task.sharesEmployee id = false) : (state.assign worker task).Sound := by
  apply sound.assign own
  · intro id locks
    rcases sessions id locks with held | free
    · exact sound.sessionLocks worker id held
    · exact free
  · intro id locks
    exact sound.employeeLocks worker id (updates id locks)
  · intro id locks
    rw [shares id] at locks
    cases locks

theorem Sound.step {event : AuthEvent} (sound : before.Sound) (taken : Step before event after)
    (undisturbed : before.Undisturbed event) : after.Sound := by
  cases taken with
  | tick => exact { sound with }
  | abort => exact sound.release
  | findResetToken passwordHash idle known usable =>
      apply sound.proceed
      · trivial
      · intro id locks
        cases locks
      · intro id locks
        cases locks
      · intro id
        rfl
  | consumeResetToken task free found unused lasts =>
      apply sound.proceed
      · trivial
      · intro id locks
        cases locks
      · intro id locks
        cases locks
      · intro id
        rfl
  | updateEmployee task free unshared found =>
      apply sound.assign
      · trivial
      · intro id locks
        cases locks
      · intro id locks
        obtain rfl := of_decide_eq_true locks
        exact ⟨free, unshared⟩
      · intro id locks
        cases locks
  | @revokeSessions worker record passwordHash now task =>
      apply sound.proceed
      · intro id member
        exact .inl member
      · intro id locks
        simp [AuthTask.locksSession] at locks
      · intro id locks
        rw [task]
        exact locks
      · intro id
        rfl
  | @visitSession worker record passwordHash now remaining revoked id task listed free =>
      have covered := sound.tasks worker
      rw [task] at covered
      apply sound.proceed
      · intro other member
        by_cases same : other = id
        · subst same
          right
          rw [if_pos member]
          exact List.mem_cons_self
        · rcases covered other member with waiting | done
          · exact .inl (List.mem_filter.mpr ⟨waiting, by simpa using same⟩)
          · right
            split
            · exact List.mem_cons_of_mem _ done
            · exact done
      · intro other locks
        rw [task]
        simp only [AuthTask.locksSession, decide_eq_true_eq] at locks ⊢
        split at locks
        · rcases List.mem_cons.mp locks with rfl | done
          · exact .inr free
          · exact .inl done
        · exact .inl locks
      · intro other locks
        rw [task]
        exact locks
      · intro other
        rfl
  | @commitReset worker record passwordHash now revoked store task committed =>
      have ending := AccessStore.ending_commitReset committed
      apply sound.commit (sound.rows.ending ending)
      intro other differs
      refine (sound.tasks other).mono ?_ fun _ _ _ _ _ _ _ member => ending.openSessions member
      intro session member locks
      refine ending.kept session member (decide_eq_false fun done => ?_)
      have free := sound.sessionLocks worker session.id
        (by rw [task]; exact decide_eq_true done) other differs
      rw [locks] at free
      cases free
  | @readSession worker token session idle verified found valid =>
      simp only [isValid, AuthSession.isUsable, Bool.and_eq_true, decide_eq_true_eq,
        Option.isNone_iff_eq_none] at valid
      obtain ⟨⟨⟨⟨employee, family⟩, -⟩, open_, -⟩, hash⟩ := valid
      apply sound.proceed
      · exact ⟨⟨Table.find?_key found, family, employee, hash⟩, open_⟩
      · intro id locks
        cases locks
      · intro id locks
        cases locks
      · intro id
        rfl
  | @consumeSession worker token session now task free unchanged =>
      have read := sound.tasks worker
      rw [task] at read
      apply sound.proceed
      · exact ⟨read, Table.mem_of_find? unchanged⟩
      · intro id locks
        obtain rfl := of_decide_eq_true locks
        exact .inr free
      · intro id locks
        cases locks
      · intro id
        rfl
  | @commitRotation worker token session now store task committed =>
      have own := sound.tasks worker
      rw [task] at own
      obtain ⟨⟨holds, open_⟩, known⟩ := own
      obtain ⟨middle, next, ending, sub, family, opening⟩ :=
        AccessStore.opening_commitRotation sound.rows known holds committed
      have locked : (before.tasks worker).locksSession session.id = true := by
        rw [task]
        exact decide_eq_true rfl
      apply sound.commit ((sound.rows.ending ending).opening opening)
      intro other differs
      apply (sound.tasks other).mono
      · intro row member locks
        refine (Table.mem_insert? opening.inserted).mpr (.inl ?_)
        refine ending.kept row member (decide_eq_false fun same => ?_)
        rw [← holds.id] at same
        have free := sound.sessionLocks worker session.id locked other differs
        rw [← same, locks] at free
        cases free
      · intro record passwordHash started remaining revoked running id member
        rcases opening.openSessions member with earlier | same
        · exact ending.openSessions earlier
        · -- the statement has been through all rows, and so holds the one that was rotated
          have covered := sound.tasks other
          rw [running] at covered
          have employee : record.employeeId = session.employeeId :=
            same.trans (sub.trans holds.employeeId.symm)
          have done := undisturbed other
          rw [running] at done
          simp only [AuthTask.isRevoking, employee, decide_true, Bool.true_and,
            Bool.not_eq_false', List.isEmpty_iff] at done
          have free := sound.sessionLocks worker session.id locked other differs
          rw [running] at free
          rcases covered session.id
            (AccessStore.mem_openSessions.mpr ⟨session, known, employee.symm, open_, rfl⟩)
            with waiting | held
          · rw [done] at waiting
            cases waiting
          · exact (of_decide_eq_false free held).elim
  | @revokeFamily employeeId familyId reason store free committed =>
      have ending := AccessStore.ending_revokeFamily committed
      refine
        { rows := sound.rows.ending ending
          tasks := fun worker => ?_
          sessionLocks := sound.sessionLocks
          employeeLocks := sound.employeeLocks }
      refine (sound.tasks worker).mono ?_ fun _ _ _ _ _ _ _ member => ending.openSessions member
      intro session member locks
      refine ending.kept session member (Bool.eq_false_iff.mpr fun ends => ?_)
      rw [free session member ends worker] at locks
      cases locks
  | @verifySignIn worker employee proof proved idle free known accepted =>
      apply sound.assign
      · trivial
      · intro id locks
        cases locks
      · intro id locks
        cases locks
      · intro id locks
        obtain rfl := of_decide_eq_true locks
        exact free
  | @commitSignIn worker employeeId email now store task committed =>
      obtain ⟨token, sub, -, opening⟩ := AccessStore.opening_commitSignIn sound.rows committed
      apply sound.commit (sound.rows.opening opening)
      intro other differs
      apply (sound.tasks other).mono
      · intro session member _
        exact (Table.mem_insert? opening.inserted).mpr (.inl member)
      · intro record passwordHash started remaining revoked running id member
        rcases opening.openSessions member with earlier | same
        · exact earlier
        · have unshared := (sound.employeeLocks other record.employeeId
            (by rw [running]; exact decide_eq_true rfl)).2 worker differs.symm
          rw [task] at unshared
          exact (of_decide_eq_false unshared (sub.symm.trans same.symm)).elim

/-- A family whose sessions are revoked stays so. -/
theorem Sound.revoked_step {event : AuthEvent} {familyId : Id} (sound : before.Sound)
    (revoked : before.store.Revoked familyId) (taken : Step before event after) :
    after.store.Revoked familyId := by
  cases taken with
  | @commitReset worker record passwordHash now done store task committed =>
      exact revoked.ending (AccessStore.ending_commitReset committed)
  | revokeFamily free committed =>
      exact revoked.ending (AccessStore.ending_revokeFamily committed)
  | @commitSignIn worker employeeId email now store task committed =>
      obtain ⟨token, -, fresh, opening⟩ := AccessStore.opening_commitSignIn sound.rows committed
      refine revoked.opening opening fun same => ?_
      have earlier := revoked.1
      lia
  | @commitRotation worker token session now store task committed =>
      have own := sound.tasks worker
      rw [task] at own
      obtain ⟨⟨holds, open_⟩, known⟩ := own
      obtain ⟨middle, next, ending, -, family, opening⟩ :=
        AccessStore.opening_commitRotation sound.rows known holds committed
      refine (revoked.ending ending).opening opening fun same => ?_
      have ended := revoked.2 session known (by rw [holds.familyId, ← family, same])
      rw [open_] at ended
      cases ended
  | _ => exact revoked

/-- The reset revokes what the employee has when it commits. -/
theorem Sound.revoked_reset {employeeId : Id} (sound : before.Sound)
    (taken : Step before (.reset employeeId) after) {former : AuthSession}
    (known : former ∈ before.store.sessions) (own : former.employeeId = employeeId) :
    after.store.Revoked former.familyId := by
  cases taken with
  | @commitReset worker record passwordHash now revoked store task committed =>
      have ending := AccessStore.ending_commitReset committed
      have covered := sound.tasks worker
      rw [task] at covered
      refine ⟨ending.nextId ▸ (sound.rows.drawn former known).2, fun session member same => ?_⟩
      obtain ⟨previous, alsoKnown, -, family, -, unmet⟩ := ending.former session member
      cases open_ : session.revokedAt with
      | some => rfl
      | none =>
          obtain ⟨rfl, skipped⟩ := unmet open_
          have employee : session.employeeId = record.employeeId :=
            (sound.rows.owned session alsoKnown former known same).trans own
          rcases covered session.id
            (AccessStore.mem_openSessions.mpr ⟨session, alsoKnown, employee, open_, rfl⟩)
            with waiting | done
          · cases waiting
          · exact (of_decide_eq_false skipped done).elim

theorem Sound.run (sound : before.Sound) (taken : UndisturbedRun before after) : after.Sound := by
  induction taken with
  | refl => exact sound
  | tail _ last inductionHypothesis =>
      obtain ⟨event, step, undisturbed⟩ := last
      exact inductionHypothesis.step step undisturbed

theorem Sound.revoked_run {familyId : Id} (sound : before.Sound)
    (revoked : before.store.Revoked familyId) (taken : UndisturbedRun before after) :
    after.store.Revoked familyId := by
  suffices both : after.Sound ∧ after.store.Revoked familyId from both.2
  induction taken with
  | refl => exact ⟨sound, revoked⟩
  | tail _ last inductionHypothesis =>
      obtain ⟨event, step, undisturbed⟩ := last
      exact ⟨inductionHypothesis.1.step step undisturbed,
        inductionHypothesis.1.revoked_step inductionHypothesis.2 step⟩

theorem sound_ofServer {server : AuthServer} (reachable : server.Reachable) :
    (ofServer server).Sound where
  rows :=
    { drawn := fun session member => by
        obtain ⟨holds, signed, -⟩ := reachable.consistent.held session member
        rw [holds.id, holds.familyId]
        exact reachable.consistent.drawn _ signed
      owned := fun session member other known same => by
        obtain ⟨holds, signed, -⟩ := reachable.consistent.held session member
        obtain ⟨alsoHolds, alsoSigned, -⟩ := reachable.consistent.held other known
        rw [holds.employeeId, alsoHolds.employeeId]
        refine reachable.consistent.owned _ signed _ alsoSigned ?_
        rw [← holds.familyId, ← alsoHolds.familyId, same] }
  tasks _ := trivial
  sessionLocks _ _ locks := by cases locks
  employeeLocks _ _ locks := by cases locks

/-- Without a rotation in the wrong moment, a reset ends the families that it finds. -/
theorem reset_ends_sessions {server : AuthServer} {employeeId : Id} (reachable : server.Reachable)
    (run : UndisturbedRun (ofServer server) before) (reset : Step before (.reset employeeId) after)
    (rest : UndisturbedRun after later) :
    ∀ former ∈ before.store.sessions, former.employeeId = employeeId →
      ∀ session ∈ later.store.sessions, session.familyId = former.familyId →
        session.isUsable later.clock = false := by
  intro former known own session member same
  have sound := (sound_ofServer reachable).run run
  have revoked := (sound.step reset trivial).revoked_run (sound.revoked_reset reset known own) rest
  have ended := revoked.2 session member same
  simp only [AuthSession.isUsable, Bool.and_eq_false_iff, Option.isNone_eq_false_iff]
  exact .inl ended

section Sample

open AuthServer

/-- The owner is signed in and has asked for a reset. -/
def asked : AuthServer := sample.perform (.requestReset 0)

theorem reachable_asked : asked.Reachable := Reachable.sample.perform _

def sampleRecord : PasswordResetToken where
  id := 4
  tokenHash := 4
  expiresAt := PasswordResetService.resetTtlMs
  usedAt := none
  employeeId := 0

def sampleSession : AuthSession := newSession sampleToken 0

/-- The reset has written its token and the employee. -/
def updated : AuthWorkers :=
  (((ofServer asked).assign 0 (.resetFound sampleRecord "c" 0)).assign 0
    (.resetConsumed sampleRecord "c" 0)).assign 0 (.resetUpdated sampleRecord "c" 0)

theorem run_updated : UndisturbedRun (ofServer asked) updated := by
  have found : Step (ofServer asked) .other
      ((ofServer asked).assign 0 (.resetFound sampleRecord "c" 0)) := by
    apply Step.findResetToken
    · rfl
    · have known : sampleRecord ∈ asked.store.resetTokens.rows := by decide +kernel
      exact known
    · decide +kernel
  have consumed : Step ((ofServer asked).assign 0 (.resetFound sampleRecord "c" 0)) .other
      (((ofServer asked).assign 0 (.resetFound sampleRecord "c" 0)).assign 0
        (.resetConsumed sampleRecord "c" 0)) := by
    have unlocked : ((ofServer asked).assign 0 (.resetFound sampleRecord "c" 0)).Free 0
        (AuthTask.locksResetToken 4) := by
      intro other differs
      simp [assign, differs, ofServer, AuthTask.locksResetToken]
    have row : asked.store.resetTokens.find? 4 = some sampleRecord := by decide +kernel
    exact .consumeResetToken rfl unlocked row rfl (by decide)
  have written : Step (((ofServer asked).assign 0 (.resetFound sampleRecord "c" 0)).assign 0
      (.resetConsumed sampleRecord "c" 0)) .other updated := by
    apply Step.updateEmployee
    · rfl
    · intro other differs
      simp [assign, differs, ofServer, AuthTask.updatesEmployee]
    · intro other differs
      simp [assign, differs, ofServer, AuthTask.sharesEmployee]
    · decide +kernel
  exact ((Relation.ReflTransGen.single ⟨_, found, trivial⟩).tail ⟨_, consumed, trivial⟩).tail
    ⟨_, written, trivial⟩

/-- The last statement of the reset, with the sessions of its snapshot before it. -/
def revoking (state : AuthWorkers) (remaining revoked : List Id) : AuthWorkers :=
  state.assign 0 (.resetRevoking sampleRecord "c" 0 remaining revoked)

/-- The store that a transaction leaves. -/
def written (store : AccessStore) (program : Tx AccessStore Failure Unit) : AccessStore :=
  match program store with
  | .ok (_, after) => after
  | .error _ => store

/-- A rotation of the session beside the reset. -/
def rotating : AuthWorkers :=
  (updated.assign 1 (.rotationRead sampleToken sampleSession 0)).assign 1
    (.rotationConsumed sampleToken sampleSession 0)

theorem run_rotating : UndisturbedRun (ofServer asked) rotating := by
  have session : asked.store.sessions.find? 2 = some sampleSession := by decide +kernel
  have read : Step updated .other (updated.assign 1 (.rotationRead sampleToken sampleSession 0)) := by
    apply Step.readSession
    · rfl
    · decide +kernel
    · exact session
    · decide +kernel
  have consumed : Step (updated.assign 1 (.rotationRead sampleToken sampleSession 0)) .other
      rotating := by
    apply Step.consumeSession
    · rfl
    · intro other differs
      by_cases resets : other = 0
      · subst resets
        rfl
      · simp [updated, assign, differs, resets, ofServer, AuthTask.locksSession]
    · exact session
  exact (run_updated.tail ⟨_, read, trivial⟩).tail ⟨_, consumed, trivial⟩

/-- The rotation has committed before the last statement of the reset. -/
def rotated : AuthWorkers :=
  { rotating with store := written asked.store (commitRotation sampleToken 0) }.assign 1 .idle

theorem run_rotated : UndisturbedRun (ofServer asked) rotated := by
  have committed := @Step.commitRotation rotating 1 sampleToken sampleSession 0
    (written asked.store (commitRotation sampleToken 0)) rfl rfl
  refine run_rotating.tail ⟨_, committed, fun worker => ?_⟩
  by_cases resets : worker = 0
  · subst resets
    rfl
  · by_cases rotates : worker = 1
    · subst rotates
      rfl
    · simp [rotating, updated, assign, resets, rotates, ofServer, AuthTask.isRevoking]

/-- A session that was rotated beside the reset ends with it. -/
theorem reset_ends_sessions_rotated :
    (∃ session ∈ rotated.store.sessions.rows,
      session.familyId = sampleSession.familyId ∧ session.isUsable 0 = true) ∧
      ∀ session ∈ (written rotated.store
          (PasswordResetService.commitReset sampleRecord "c" [5] 0)).sessions,
        session.familyId = sampleSession.familyId → session.isUsable 0 = false := by
  have snapshot : rotated.store.openSessions 0 = [5] := by decide +kernel
  have started : Step rotated .other (revoking rotated [5] []) := by
    rw [← snapshot]
    exact .revokeSessions rfl
  have visited : Step (revoking rotated [5] []) .other
      (revoking (revoking rotated [5] []) [] [5]) := by
    have free : (revoking rotated [5] []).Free 0 (AuthTask.locksSession 5) := by
      intro other differs
      by_cases rotates : other = 1
      · subst rotates
        rfl
      · simp [revoking, rotated, rotating, updated, assign, differs, rotates, ofServer,
          AuthTask.locksSession]
    have taken : Step (revoking rotated [5] []) .other _ :=
      .visitSession rfl (List.mem_singleton.mpr rfl) free
    have same : (revoking rotated [5] []).store.openSessions sampleRecord.employeeId = [5] :=
      snapshot
    rw [same] at taken
    exact taken
  have reset := @Step.commitReset (revoking (revoking rotated [5] []) [] [5]) 0 sampleRecord "c" 0
    [5] (written rotated.store (PasswordResetService.commitReset sampleRecord "c" [5] 0)) rfl rfl
  have open_ : ∃ session ∈ rotated.store.sessions.rows,
      session.employeeId = 0 ∧ session.familyId = 3 ∧ session.isUsable 0 = true := by
    decide +kernel
  obtain ⟨former, known, employee, family, usable⟩ := open_
  have run := (run_rotated.tail ⟨_, started, trivial⟩).tail ⟨_, visited, trivial⟩
  have ended := reset_ends_sessions reachable_asked run reset .refl former known employee
  exact ⟨⟨former, known, family, usable⟩, fun session member own =>
    ended session member (own.trans family.symm)⟩

/-- The rotation has committed while the statement of the reset waits for its row. -/
def interrupted : AuthWorkers :=
  { revoking rotating [2] [] with
    store := written asked.store (commitRotation sampleToken 0) }.assign 1 .idle

/-- A rotation that commits between the snapshot of the statement and its row has the new session
outlive the reset. -/
theorem reset_misses_session :
    ¬∀ (server : AuthServer) (employeeId : Id) (before after later : AuthWorkers),
      server.Reachable → Run (ofServer server) before → Step before (.reset employeeId) after →
        Run after later → ∀ former ∈ before.store.sessions, former.employeeId = employeeId →
          ∀ session ∈ later.store.sessions, session.familyId = former.familyId →
            session.isUsable later.clock = false := by
  intro claimed
  have snapshot : asked.store.openSessions 0 = [2] := by decide +kernel
  have started : Step rotating .other (revoking rotating [2] []) := by
    rw [← snapshot]
    exact .revokeSessions rfl
  have ends := @Step.commitRotation (revoking rotating [2] []) 1 sampleToken sampleSession 0
    (written asked.store (commitRotation sampleToken 0)) rfl rfl
  have visited : Step interrupted .other (revoking interrupted [] []) := by
    have free : interrupted.Free 0 (AuthTask.locksSession 2) := by
      intro other differs
      by_cases rotates : other = 1
      · subst rotates
        rfl
      · simp [interrupted, revoking, rotating, updated, assign, differs, rotates, ofServer,
          AuthTask.locksSession]
    have taken : Step interrupted .other _ :=
      @Step.visitSession interrupted 0 sampleRecord "c" 0 [2] [] 2 rfl
        (List.mem_singleton.mpr rfl) free
    have skipped : (2 : Id) ∉ interrupted.store.openSessions sampleRecord.employeeId := by
      decide +kernel
    rw [if_neg skipped] at taken
    exact taken
  have reset := @Step.commitReset (revoking interrupted [] []) 0 sampleRecord "c" 0 []
    (written interrupted.store (PasswordResetService.commitReset sampleRecord "c" [] 0)) rfl rfl
  have run : Run (ofServer asked) (revoking interrupted [] []) := by
    have begun : Run (ofServer asked) rotating :=
      Relation.ReflTransGen.mono (fun _ _ ⟨event, taken, _⟩ => ⟨event, taken⟩) _ _ run_rotating
    exact ((begun.tail ⟨_, started⟩).tail ⟨_, ends⟩).tail ⟨_, visited⟩
  have survives : ∃ session ∈
      (written interrupted.store (PasswordResetService.commitReset sampleRecord "c" [] 0)).sessions.rows,
      session.familyId = 3 ∧ session.isUsable 0 = true := by decide +kernel
  obtain ⟨survivor, member, own, usable⟩ := survives
  have former : ∃ session ∈ interrupted.store.sessions.rows,
      session.employeeId = 0 ∧ session.familyId = 3 := by decide +kernel
  obtain ⟨old, known, employee, family⟩ := former
  have ended := claimed asked 0 _ _ _ reachable_asked run reset .refl old known employee survivor
    member (own.trans family.symm)
  have contradiction : survivor.isUsable 0 = false := ended
  rw [usable] at contradiction
  cases contradiction

end Sample

end AuthWorkers

end CoffeeShop
