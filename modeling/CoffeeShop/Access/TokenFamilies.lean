import CoffeeShop.Access.Families

/-!
Refresh tokens that are presented, over all runs of the server.
-/

namespace CoffeeShop

open Transaction AuthSessionService

/-- The access tables and the time. -/
structure AuthServer where
  store : AccessStore
  clock : Timestamp

namespace AuthServer

/-- A transaction commits, time passes, or the master data changes. -/
inductive Step (before : AuthServer) : AuthServer → Prop where
  | tick {clock : Timestamp} (passes : before.clock ≤ clock) : Step before { before with clock }
  | commit {store : AccessStore} (command : AccessCommand)
      (committed : Commits (command.execute before.clock) before.store () store) :
      Step before { before with store }
  | administer (positions : Table Position.id) (permissions : Table Permission.id)
      (dropped : Id → Bool) :
      Step before { before with store := { before.store with
        positions, permissions
        rolePermissions :=
          before.store.rolePermissions.delete fun row => dropped row.permissionId } }

abbrev Steps : AuthServer → AuthServer → Prop := Relation.ReflTransGen Step

/-- The states of the runs that start without sessions. -/
def Reachable (server : AuthServer) : Prop :=
  ∃ start : AuthServer, start.store.sessions = .empty ∧ start.store.signed = [] ∧
    Steps start server

/-- The token is that of a usable session. -/
def IsCurrent (server : AuthServer) (token : RefreshToken) : Prop :=
  ∃ session ∈ server.store.sessions, session.refreshTokenHash = token ∧
    session.isUsable server.clock = true

/-- No session of the family is usable. -/
def Closed (server : AuthServer) (familyId : Id) : Prop :=
  server.store.issued.Closed familyId server.clock

/-- A call with the token, until it returns. -/
inductive Presented (token : RefreshToken) (before : AuthServer) : AuthServer → Prop where
  | rotated {next : RefreshToken} {store : AccessStore}
      (committed : Commits (rotate token before.clock) before.store (some next) store) :
      Presented token before { before with store }
  /-- Others may take steps between the two transactions. -/
  | reused {store final : AccessStore} {middle : AuthServer}
      (refused : Commits (rotate token before.clock) before.store none store)
      (meanwhile : Steps { before with store } middle)
      (revoked : Commits (revokeFamily token.sub token.familyId .refreshReuse middle.clock)
        middle.store () final) :
      Presented token before { middle with store := final }
  | rejected {failure : Failure} (aborted : Aborts (rotate token before.clock) before.store failure) :
      Presented token before before
  | loggedOut {store : AccessStore}
      (committed : Commits (revoke token before.clock) before.store () store) :
      Presented token before { before with store }

variable {server later : AuthServer} {token : RefreshToken} {familyId : Id}

theorem Step.issues (taken : Step server later) : server.clock ≤ later.clock ∧
    SessionSteps server.clock server.store.issued later.store.issued := by
  cases taken with
  | tick passes => exact ⟨passes, .refl⟩
  | commit command committed => exact ⟨le_rfl, SessionSteps.command.step committed⟩
  | administer => exact ⟨le_rfl, .refl⟩

theorem consistent_steps (consistent : server.store.issued.Consistent server.clock)
    (taken : Steps server later) : later.store.issued.Consistent later.clock := by
  induction taken with
  | refl => exact consistent
  | tail _ last inductionHypothesis =>
      obtain ⟨passes, issues⟩ := last.issues
      exact (inductionHypothesis.steps issues).tick passes

theorem Reachable.consistent (reachable : server.Reachable) :
    server.store.issued.Consistent server.clock := by
  obtain ⟨start, unopened, unsigned, taken⟩ := reachable
  refine consistent_steps ?_ taken
  constructor <;> simp [AccessStore.issued, unopened, unsigned]

theorem Reachable.steps (reachable : server.Reachable) (taken : Steps server later) :
    later.Reachable := by
  obtain ⟨start, unopened, unsigned, earlier⟩ := reachable
  exact ⟨start, unopened, unsigned, earlier.trans taken⟩

theorem closed_steps (closed : server.Closed familyId) (old : familyId < server.store.nextId)
    (taken : Steps server later) : later.Closed familyId := by
  suffices both : later.Closed familyId ∧ familyId < later.store.nextId from both.1
  induction taken with
  | refl => exact ⟨closed, old⟩
  | tail _ last inductionHypothesis =>
      obtain ⟨passes, issues⟩ := last.issues
      obtain ⟨stays, known⟩ := inductionHypothesis.1.steps inductionHypothesis.2 issues
      exact ⟨stays.tick passes, known⟩

/-- The tokens stay signed. -/
theorem signed_steps (signed : token ∈ server.store.signed) (taken : Steps server later) :
    token ∈ later.store.signed := by
  induction taken with
  | refl => exact signed
  | tail _ last inductionHypothesis =>
      exact SessionSteps.signed_mono last.issues.2 inductionHypothesis

/-- The family of the token has no usable session once it was revoked. -/
theorem closed_revokeFamily {reason : SessionRevokeReason} {store : AccessStore}
    (consistent : server.store.issued.Consistent server.clock) (signed : token ∈ server.store.signed)
    (committed : Commits (revokeFamily token.sub token.familyId reason server.clock) server.store ()
      store) : Closed { server with store } token.familyId := by
  simp only [revokeFamily, commits_bind, commits_updateMany, commits_pure] at committed
  obtain ⟨_, _, ⟨-, rfl⟩, -, rfl⟩ := committed
  intro session member own
  simp only [AccessStore.issued, authSession, Table.mem_update_iff] at member
  rcases member with ⟨former, inStore, -, rfl⟩ | ⟨inStore, unmet⟩
  · rfl
  · obtain ⟨holds, alsoSigned, -⟩ := consistent.held session inStore
    have employee : session.employeeId = token.sub := by
      rw [holds.employeeId]
      exact consistent.owned _ alsoSigned _ signed (holds.familyId.symm.trans own)
    simp only [isOpen, employee, own, decide_true, Bool.true_and] at unmet
    simp [AuthSession.isUsable, unmet]

/-- The refusals leave the sessions as they are. -/
theorem refused_sessions {answer : Option RefreshToken} {store : AccessStore} {now : Timestamp}
    {before : AccessStore} (committed : Commits (rotate token now) before answer store) :
    isVerified before token now = true ∧
      ((∃ session ∈ before.sessions, session.refreshTokenHash = token ∧
        session.isUsable now = true) ∨ answer = none ∧ store = before) := by
  simp only [rotate, commits_bind, commits_get, commits_require, commits_findUnique] at committed
  obtain ⟨_, _, ⟨rfl, rfl⟩, _, _, ⟨verified, rfl⟩, current, _, ⟨found, rfl⟩, rotated⟩ := committed
  refine ⟨verified, ?_⟩
  split at rotated
  case isTrue valid =>
    cases current with
    | none => cases valid
    | some session =>
        simp only [Option.any_some, isValid, Bool.and_eq_true, decide_eq_true_eq] at valid
        exact .inl ⟨session, Table.mem_of_find? found.symm, valid.2, valid.1.2⟩
  case isFalse => exact .inr (commits_pure.mp rotated)

theorem rotate_stale (verified : isVerified server.store token server.clock = true)
    (stale : ¬server.IsCurrent token) :
    Commits (rotate token server.clock) server.store none server.store := by
  have invalid : (server.store.sessions.find? token.sid).any
      (isValid server.store token server.clock) = false := by
    cases found : server.store.sessions.find? token.sid with
    | none => rfl
    | some session =>
        refine Bool.eq_false_iff.mpr fun valid => stale ?_
        simp only [Option.any_some, isValid, Bool.and_eq_true, decide_eq_true_eq] at valid
        exact ⟨session, Table.mem_of_find? found, valid.2, valid.1.2⟩
  simp [rotate, verified, invalid, authSession]

theorem rotate_unverified {store : AccessStore} {now : Timestamp}
    (unverified : isVerified store token now = false) :
    Aborts (rotate token now) store invalidToken := by
  simp [rotate, unverified]

/-- A logout with a token that passes the verification ends the family. -/
theorem revoke_verified {store : AccessStore}
    (consistent : server.store.issued.Consistent server.clock)
    (verified : isVerified server.store token server.clock = true)
    (committed : Commits (revoke token server.clock) server.store () store) :
    Closed { server with store } token.familyId := by
  have parts := verified
  simp only [isVerified, Bool.and_eq_true, decide_eq_true_eq] at parts
  obtain ⟨signed, lasts⟩ := parts
  simp only [revoke, commits_bind, commits_get] at committed
  obtain ⟨_, _, ⟨rfl, rfl⟩, logout⟩ := committed
  rcases commits_when.mp logout with ⟨-, logout⟩ | ⟨unmet, -⟩
  · simp only [commits_bind, commits_findFirst] at logout
    obtain ⟨found, _, ⟨first, rfl⟩, ending⟩ := logout
    rcases commits_whenSome.mp ending with ⟨session, -, ending⟩ | ⟨absent, -⟩
    · exact closed_revokeFamily consistent signed ending
    · obtain ⟨session, inStore, hash⟩ := consistent.kept token signed (by lia)
      have holds := (consistent.held session inStore).1
      rw [hash] at holds
      have passed := Table.first?_eq_none.mp (first.symm.trans absent) session inStore
      simp [holds.id, holds.employeeId, holds.familyId] at passed
  · exact (unmet verified).elim

theorem revoke_unverified {store : AccessStore}
    (unverified : isVerified server.store token server.clock = false)
    (committed : Commits (revoke token server.clock) server.store () store) :
    store = server.store := by
  simp only [revoke, commits_bind, commits_get] at committed
  obtain ⟨_, _, ⟨rfl, rfl⟩, logout⟩ := committed
  rcases commits_when.mp logout with ⟨verified, -⟩ | ⟨-, rfl⟩
  · rw [unverified] at verified
    cases verified
  · rfl

/-- What a token that is not current does when it is presented. -/
theorem Presented.closes {after : AuthServer} (reachable : server.Reachable)
    (signed : token ∈ server.store.signed) (stale : ¬server.IsCurrent token)
    (verified : isVerified server.store token server.clock = true)
    (presented : Presented token server after) : after.Closed token.familyId := by
  cases presented with
  | rotated committed =>
      rcases (refused_sessions committed).2 with current | ⟨refused, -⟩
      · exact (stale current).elim
      · cases refused
  | @reused store final middle refused meanwhile revoked =>
      obtain ⟨-, current | ⟨-, rfl⟩⟩ := refused_sessions refused
      · exact (stale current).elim
      · exact closed_revokeFamily (reachable.steps meanwhile).consistent
          (signed_steps signed meanwhile) revoked
  | rejected aborted => exact ((rotate_stale verified stale).not_aborts aborted).elim
  | loggedOut committed => exact revoke_verified reachable.consistent verified committed

theorem Presented.unchanged {after : AuthServer}
    (unverified : isVerified server.store token server.clock = false)
    (presented : Presented token server after) : after = server := by
  have refuses {answer : Option RefreshToken} {store : AccessStore}
      (committed : Commits (rotate token server.clock) server.store answer store) : False :=
    committed.not_aborts (rotate_unverified unverified)
  cases presented with
  | rotated committed => exact (refuses committed).elim
  | reused refused => exact (refuses refused).elim
  | rejected => rfl
  | loggedOut committed => rw [revoke_unverified unverified committed]

/-- A family has one usable session at most, none after a token that is not the current one was
presented before its own expiry, and none again. -/
theorem Reachable.tokenFamilies (reachable : server.Reachable) :
    (∀ session ∈ server.store.sessions, ∀ other ∈ server.store.sessions,
      session.familyId = other.familyId → session.isUsable server.clock = true →
        other.isUsable server.clock = true → session = other) ∧
    (∀ token ∈ server.store.signed, ¬server.IsCurrent token →
      (isVerified server.store token server.clock = true →
        (∃ after, Presented token server after) ∧
          ∀ after, Presented token server after → after.Closed token.familyId) ∧
      (isVerified server.store token server.clock = false →
        Aborts (rotate token server.clock) server.store invalidToken ∧
          ∀ after, Presented token server after → after = server)) ∧
    ∀ token ∈ server.store.signed, server.Closed token.familyId →
      ∀ later, Steps server later → later.Closed token.familyId := by
  have consistent := reachable.consistent
  refine ⟨?_, ?_, ?_⟩
  · intro session member other known same usable otherUsable
    simp only [AuthSession.isUsable, Bool.and_eq_true, Option.isNone_iff_eq_none]
      at usable otherUsable
    exact consistent.single session member other known same usable.1 otherUsable.1
  · intro token signed stale
    constructor
    · intro verified
      refine ⟨⟨_, .reused (rotate_stale verified stale) .refl rfl⟩, ?_⟩
      intro after presented
      exact presented.closes reachable signed stale verified
    · intro unverified
      refine ⟨rotate_unverified unverified, ?_⟩
      intro after presented
      exact presented.unchanged unverified
  · intro token signed closed later taken
    exact closed_steps closed (consistent.drawn token signed).2 taken

/-- The command at the clock, which changes nothing when it aborts. -/
def perform (server : AuthServer) (command : AccessCommand) : AuthServer :=
  match command.execute server.clock server.store with
  | .ok (_, store) => { server with store }
  | .error _ => server

def wait (server : AuthServer) (time : Nat) : AuthServer :=
  { server with clock := server.clock + time }

theorem Reachable.perform (reachable : server.Reachable) (command : AccessCommand) :
    (server.perform command).Reachable := by
  unfold AuthServer.perform
  split
  case h_1 store ran => exact reachable.steps (.single (.commit command ran))
  case h_2 => exact reachable

theorem Reachable.wait (reachable : server.Reachable) (time : Nat) : (server.wait time).Reachable :=
  reachable.steps (.single (.tick (Nat.le_add_right _ _)))

/-- The owner signs in. -/
def sample : AuthServer :=
  perform ⟨.sample, 0⟩ (.createSession 0 "owner@shop" .none)

theorem Reachable.sample : Reachable sample := by
  have start : Reachable ⟨.sample, 0⟩ := ⟨_, rfl, rfl, .refl⟩
  exact start.perform _

def dayMs : Nat := 24 * 60 * 60 * 1000

/-- The first token of the owner. -/
def sampleToken : RefreshToken := refreshToken 0 "owner@shop" 2 3 0

/-- The session was rotated on the 29th day, and two days have passed. -/
def outdated : AuthServer := ((sample.wait (29 * dayMs)).perform (.rotate sampleToken)).wait (2 * dayMs)

theorem Reachable.outdated : Reachable outdated :=
  ((Reachable.sample.wait _).perform _).wait _

/-- A token past its own expiry is turned away before the reuse is looked for: its family goes on
with the session that the rotation opened. -/
theorem tokenFamilies_outdated :
    ¬∀ server : AuthServer, server.Reachable → ∀ token ∈ server.store.signed,
      ¬server.IsCurrent token → ∀ after, Presented token server after →
        after.Closed token.familyId := by
  intro claimed
  have signed : sampleToken ∈ outdated.store.signed := by decide +kernel
  have stale : ∀ session ∈ outdated.store.sessions.rows,
      ¬(session.refreshTokenHash = sampleToken ∧ session.isUsable outdated.clock = true) := by
    decide +kernel
  have unverified : isVerified outdated.store sampleToken outdated.clock = false := by
    decide +kernel
  have usable : ∃ session ∈ outdated.store.sessions.rows,
      session.familyId = 3 ∧ session.isUsable outdated.clock = true := by decide +kernel
  have closed := claimed outdated .outdated sampleToken signed
    (fun ⟨session, member, current⟩ => stale session member current) outdated
    (.rejected (rotate_unverified unverified))
  obtain ⟨session, member, own, inForce⟩ := usable
  have ended := closed session member own
  rw [inForce] at ended
  cases ended

/-- The session after a day, rotated once. -/
def refreshed : AuthServer := (sample.wait dayMs).perform (.rotate sampleToken)

theorem Reachable.refreshed : Reachable refreshed := (Reachable.sample.wait _).perform _

theorem tokenFamilies_refreshed :
    sampleToken ∈ refreshed.store.signed ∧
      ∀ after, Presented sampleToken refreshed after → after.Closed sampleToken.familyId := by
  have signed : sampleToken ∈ refreshed.store.signed := by decide +kernel
  have stale : ∀ session ∈ refreshed.store.sessions.rows,
      ¬(session.refreshTokenHash = sampleToken ∧ session.isUsable refreshed.clock = true) := by
    decide +kernel
  have verified : isVerified refreshed.store sampleToken refreshed.clock = true := by
    decide +kernel
  have presented := (Reachable.refreshed.tokenFamilies.2.1 sampleToken signed
    fun ⟨session, member, current⟩ => stale session member current).1 verified
  exact ⟨signed, presented.2⟩

end AuthServer

end CoffeeShop
