import CoffeeShop.Access.Runs
import CoffeeShop.Library.Respects

/-!
What the services do to the sessions and the refresh tokens.

A command takes them through a list of steps, each of which writes together what the
families of sessions need together.
-/

namespace CoffeeShop

open Transaction AuthSessionService AccessStore

/-- The sessions, the tokens and the source of the ids. -/
structure IssuedSessions where
  sessions : Table AuthSession.id
  signed : List RefreshToken
  nextId : Id

def AccessStore.issued (store : AccessStore) : IssuedSessions where
  sessions := store.sessions
  signed := store.signed
  nextId := store.nextId

/-- The session is not in force any more. -/
structure AuthSession.Ends (before after : AuthSession) : Prop where
  id : after.id = before.id
  familyId : after.familyId = before.familyId
  employeeId : after.employeeId = before.employeeId
  refreshTokenHash : after.refreshTokenHash = before.refreshTokenHash
  expiresAt : after.expiresAt = before.expiresAt
  revoked : after.revokedAt.isSome = true

/-- The token is that of the session. -/
structure AuthSession.Holds (session : AuthSession) (token : RefreshToken) : Prop where
  id : session.id = token.sid
  familyId : session.familyId = token.familyId
  employeeId : session.employeeId = token.sub
  refreshTokenHash : session.refreshTokenHash = token

/-- One step of the sessions at the given time. -/
inductive SessionStep (now : Timestamp) (before : IssuedSessions) : IssuedSessions → Prop where
  | drawn : SessionStep now before { before with nextId := before.nextId + 1 }
  | ended (condition : AuthSession → Bool) (change : AuthSession → AuthSession)
      (keeps : ∀ row, (change row).id = row.id) (ends : ∀ row : AuthSession, row.Ends (change row)) :
      SessionStep now before { before with
        sessions := before.sessions.update condition change keeps }
  | dropped (condition : AuthSession → Bool)
      (old : ∀ session, condition session = true → session.expiresAt < now) :
      SessionStep now before { before with sessions := before.sessions.delete condition }
  /-- A sign-in opens a family. -/
  | opened {token : RefreshToken} {sessions : Table AuthSession.id} (sid : token.sid = before.nextId)
      (familyId : token.familyId = before.nextId + 1)
      (exp : token.exp = now / 1000 + refreshTokenTtlMs / 1000)
      (inserted : before.sessions.insert? (newSession token now) = some sessions) :
      SessionStep now before ⟨sessions, token :: before.signed, before.nextId + 2⟩
  /-- The successor takes the place of the session in its family. -/
  | rotated {token next : RefreshToken} {session : AuthSession} {sessions : Table AuthSession.id}
      (condition : AuthSession → Bool) (change : AuthSession → AuthSession)
      (keeps : ∀ row, (change row).id = row.id) (ends : ∀ row : AuthSession, row.Ends (change row))
      (known : session ∈ before.sessions) (consumed : condition session = true)
      (usable : session.isUsable now = true) (holds : session.Holds token)
      (sid : next.sid = before.nextId) (familyId : next.familyId = token.familyId)
      (sub : next.sub = token.sub) (exp : next.exp = now / 1000 + refreshTokenTtlMs / 1000)
      (inserted : (before.sessions.update condition change keeps).insert? (newSession next now) =
        some sessions) :
      SessionStep now before ⟨sessions, next :: before.signed, before.nextId + 1⟩

/-- Any number of steps at the given time. -/
abbrev SessionSteps (now : Timestamp) : IssuedSessions → IssuedSessions → Prop :=
  Relation.ReflTransGen (SessionStep now)

abbrev IssuesAt (now : Timestamp) : AccessStore → AccessStore → Prop :=
  On issued (SessionSteps now)

instance : Apart issued accessEmployee := ⟨fun _ _ => rfl⟩
instance : Apart issued accessRole := ⟨fun _ _ => rfl⟩
instance : Apart issued rolePermission := ⟨fun _ _ => rfl⟩
instance : Apart issued employeeRole := ⟨fun _ _ => rfl⟩
instance : Apart issued passwordResetToken := ⟨fun _ _ => rfl⟩

namespace SessionSteps

theorem signed_mono {now : Timestamp} {before after : IssuedSessions} {token : RefreshToken}
    (taken : SessionSteps now before after) (signed : token ∈ before.signed) :
    token ∈ after.signed := by
  induction taken with
  | refl => exact signed
  | tail _ last inductionHypothesis =>
      cases last with
      | drawn | ended | dropped => exact inductionHypothesis
      | opened => exact List.mem_cons_of_mem _ inductionHypothesis
      | rotated => exact List.mem_cons_of_mem _ inductionHypothesis

variable {now : Timestamp} {employeeId familyId actorId : Id} {reason : SessionRevokeReason}

instance freshId : Respects (IssuesAt now) freshId where
  step before id after committed := by
    obtain ⟨-, rfl⟩ := commits_freshId.mp committed
    exact .single .drawn

theorem ending {condition : AuthSession → Bool} {change : AuthSession → AuthSession}
    {keeps : ∀ row, (change row).id = row.id} (ends : ∀ row : AuthSession, row.Ends (change row)) :
    Respects (IssuesAt now) (updateMany authSession condition change keeps :
      Tx AccessStore Failure Nat) where
  step before count after committed := by
    obtain ⟨-, rfl⟩ := commits_updateMany.mp committed
    exact .single (.ended condition change keeps ends)

theorem ends_revoked {row : AuthSession} :
    row.Ends { row with revokedAt := some now, revokeReason := some reason } := by
  constructor <;> rfl

theorem ends_rotated {row : AuthSession} :
    row.Ends { row with
      revokedAt := some now
      lastUsedAt := some now
      revokeReason := some .refreshRotated } := by
  constructor <;> rfl

instance revokeSessions :
    Respects (IssuesAt now) (EmployeesService.revokeSessions employeeId reason now) := by
  unfold EmployeesService.revokeSessions
  exact Respects.andThen (ending fun _ => ends_revoked) fun _ => inferInstance

instance revokeFamily :
    Respects (IssuesAt now) (AuthSessionService.revokeFamily employeeId familyId reason now) := by
  unfold AuthSessionService.revokeFamily
  exact Respects.andThen (ending fun _ => ends_revoked) fun _ => inferInstance

instance dropExpired {batch : Id → Bool} :
    Respects (IssuesAt now) (AuthSessionService.dropExpired batch now) where
  step before result after committed := by
    simp only [AuthSessionService.dropExpired, commits_bind, commits_deleteMany,
      commits_pure] at committed
    obtain ⟨_, _, ⟨-, rfl⟩, -, rfl⟩ := committed
    refine .single (.dropped _ fun session drops => ?_)
    have overdue := of_decide_eq_true (Bool.and_eq_true_iff.mp drops).2
    exact lt_of_le_of_lt (Nat.le_add_right session.expiresAt _) overdue

instance createSession {email : String} {proof : SignInProof} :
    Respects (IssuesAt now) (AuthSessionService.createSession employeeId email proof now) where
  step before result after committed := by
    simp only [AuthSessionService.createSession, sign, commits_bind, commits_freshId,
      commits_modify, commits_findFirstOrFail, commits_create] at committed
    obtain ⟨sessionId, _, ⟨drawn, rfl⟩, familyId, _, ⟨another, rfl⟩, _, _, rfl, _, _, ⟨-, rfl⟩,
      sessions, inserted, rfl⟩ := committed
    exact .single (.opened drawn another rfl inserted)

instance rotate {token : RefreshToken} :
    Respects (IssuesAt now) (AuthSessionService.rotate token now) where
  step before answer after committed := by
    simp only [AuthSessionService.rotate, commits_bind, commits_get, commits_require,
      commits_findUnique] at committed
    obtain ⟨_, _, ⟨rfl, rfl⟩, _, _, ⟨-, rfl⟩, current, store, ⟨found, rfl⟩, rotated⟩ := committed
    split at rotated
    case isFalse =>
      obtain ⟨-, rfl⟩ := commits_pure.mp rotated
      exact .refl
    case isTrue valid =>
      simp only [commits_bind, commits_freshId, commits_updateMany] at rotated
      obtain ⟨nextSessionId, _, ⟨drawn, rfl⟩, count, _, ⟨-, rfl⟩, created⟩ := rotated
      split at created
      case isFalse =>
        obtain ⟨-, rfl⟩ := commits_pure.mp created
        exact .head .drawn (.single (.ended _ _ (by intro; rfl) fun _ => ends_rotated))
      case isTrue =>
        simp only [commits_bind, sign, commits_modify, commits_create, commits_pure] at created
        obtain ⟨_, _, rfl, _, _, ⟨sessions, inserted, rfl⟩, -, rfl⟩ := created
        cases current with
        | none => cases valid
        | some session =>
            have known := Table.mem_of_find? found.symm
            have own := Table.find?_key found.symm
            simp only [Option.any_some, isValid, Bool.and_eq_true, decide_eq_true_eq] at valid
            obtain ⟨⟨⟨⟨employee, family⟩, -⟩, usable⟩, hash⟩ := valid
            refine .single (.rotated _ _ (by intro; rfl) (fun _ => ends_rotated) known ?_ usable
              ⟨own, family, employee, hash⟩ drawn rfl rfl rfl inserted)
            simp [own, usable, hash]

instance revoke {token : RefreshToken} :
    Respects (IssuesAt now) (AuthSessionService.revoke token now) := by
  unfold AuthSessionService.revoke
  infer_instance

set_option synthInstance.maxSize 100000

section Reads

variable {keys : List String} {context : AuthorizationContext}

instance getFreshAuthorizationContext :
    Respects (IssuesAt now) (AuthorizationService.getFreshAuthorizationContext employeeId) := by
  unfold AuthorizationService.getFreshAuthorizationContext
  infer_instance

instance assertCanGrantPermissions :
    Respects (IssuesAt now) (AuthorizationService.assertCanGrantPermissions context keys) := by
  unfold AuthorizationService.assertCanGrantPermissions
  infer_instance

instance findRole {id : Id} : Respects (IssuesAt now) (RolesService.findRole id) := by
  unfold RolesService.findRole
  infer_instance

instance ensureRoleNameAvailable {name : String} {excludeId : Option Id} :
    Respects (IssuesAt now) (RolesService.ensureRoleNameAvailable name excludeId) := by
  unfold RolesService.ensureRoleNameAvailable
  infer_instance

instance loadManagedRole {id : Id} {key : String} :
    Respects (IssuesAt now) (RolesService.loadManagedRole id actorId key) := by
  unfold RolesService.loadManagedRole
  infer_instance

instance assertActivePosition {id : Id} :
    Respects (IssuesAt now) (EmployeesService.assertActivePosition id) := by
  unfold EmployeesService.assertActivePosition
  infer_instance

instance loadManagedEmployee {id : Id} :
    Respects (IssuesAt now) (EmployeesService.loadManagedEmployee id context) := by
  unfold EmployeesService.loadManagedEmployee
  infer_instance

instance assertOwnerRemains {managed : EmployeesService.ManagedEmployee} :
    Respects (IssuesAt now) (EmployeesService.assertOwnerRemains managed) := by
  unfold EmployeesService.assertOwnerRemains
  infer_instance

instance assertUnique {employee : EmployeeAccount} :
    Respects (IssuesAt now) (EmployeesService.assertUnique employee) := by
  unfold EmployeesService.assertUnique
  infer_instance

end Reads

instance insertRoles {rows : List RoleMetadata} :
    Respects (IssuesAt now) (RolesService.insertRoles rows now) := by
  induction rows with
  | nil => exact Respects.pure ()
  | cons metadata rest inductionHypothesis =>
      unfold RolesService.insertRoles
      infer_instance

instance insertEmployee {input : CreateEmployeeInput} {id : Id} :
    Respects (IssuesAt now) (EmployeesService.insertEmployee input id now) := by
  unfold EmployeesService.insertEmployee
  infer_instance

instance useResetTokens :
    Respects (IssuesAt now) (EmployeesService.useResetTokens employeeId now) := by
  unfold EmployeesService.useResetTokens
  infer_instance

instance command {command : AccessCommand} : Respects (IssuesAt now) (command.execute now) := by
  cases command
  all_goals
    dsimp only [AccessCommand.execute, RolesService.createRole, RolesService.updateRole,
      RolesService.deleteRole, RolesService.replaceRolePermissions, RolesService.importRoles,
      EmployeesService.createEmployee, EmployeesService.updateEmployee,
      EmployeesService.deleteEmployee, EmployeesService.replaceEmployeeRoles,
      EmployeesService.signUp, AuthService.linkGoogle, AuthService.unlinkGoogle,
      PasswordResetService.requestReset, PasswordResetService.resetPassword]
    infer_instance

end SessionSteps

end CoffeeShop
