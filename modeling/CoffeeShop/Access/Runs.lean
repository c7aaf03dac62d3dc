import CoffeeShop.Access.Changes

/-!
Commands on the access tables, and the states that runs of them reach.
-/

namespace CoffeeShop

open Transaction AuthSessionService

inductive AccessCommand where
  | createRole (input : CreateRoleInput) (actorId : Id)
  | updateRole (id : Id) (input : UpdateRoleInput) (actorId : Id)
  | deleteRole (id actorId : Id)
  | replaceRolePermissions (id : Id) (input : ReplaceRolePermissionsInput) (actorId : Id)
  | importRoles (rows : List RoleMetadata) (actorId : Id)
  | createEmployee (input : CreateEmployeeInput)
  | updateEmployee (id : Id) (input : UpdateEmployeeInput) (actorId : Id)
  | deleteEmployee (id actorId : Id)
  | replaceEmployeeRoles (id : Id) (input : ReplaceEmployeeRolesInput) (actorId : Id)
  | signUp (input : CreateEmployeeInput)
  | createSession (employeeId : Id) (email : String) (proof : SignInProof)
  | rotate (token : RefreshToken)
  | revokeFamily (employeeId familyId : Id)
  | revoke (token : RefreshToken)
  | dropExpired (batch : Id → Bool)
  | linkGoogle (employeeId : Id) (email password subject : String)
  | unlinkGoogle (employeeId : Id) (password subject : String)
  | requestReset (employeeId : Id)
  | resetPassword (tokenHash : Id) (passwordHash : String)

namespace AccessCommand

def execute (now : Timestamp) : AccessCommand → Tx AccessStore Failure Unit
  | createRole input actorId => RolesService.createRole input actorId now
  | updateRole id input actorId => RolesService.updateRole id input actorId now
  | deleteRole id actorId => RolesService.deleteRole id actorId now
  | replaceRolePermissions id input actorId =>
      RolesService.replaceRolePermissions id input actorId
  | importRoles rows actorId => RolesService.importRoles rows actorId now
  | createEmployee input => EmployeesService.createEmployee input now
  | updateEmployee id input actorId => EmployeesService.updateEmployee id input actorId now
  | deleteEmployee id actorId => EmployeesService.deleteEmployee id actorId now
  | replaceEmployeeRoles id input actorId =>
      EmployeesService.replaceEmployeeRoles id input actorId
  | signUp input => do
      let _ ← EmployeesService.signUp input now
  | createSession employeeId email proof =>
      AuthSessionService.createSession employeeId email proof now
  | rotate token => do
      let _ ← AuthSessionService.rotate token now
  | revokeFamily employeeId familyId =>
      AuthSessionService.revokeFamily employeeId familyId .refreshReuse now
  | revoke token => AuthSessionService.revoke token now
  | dropExpired batch => AuthSessionService.dropExpired batch now
  | linkGoogle employeeId email password subject =>
      AuthService.linkGoogle employeeId email password subject now
  | unlinkGoogle employeeId password subject =>
      AuthService.unlinkGoogle employeeId password subject now
  | requestReset employeeId => PasswordResetService.requestReset employeeId now
  | resetPassword tokenHash passwordHash =>
      PasswordResetService.resetPassword tokenHash passwordHash now

/-- The command is one of the roles or the employees service, issued by the employee. -/
def ManagedBy (actorId : Id) : AccessCommand → Prop
  | createRole _ actor | updateRole _ _ actor | deleteRole _ actor
  | replaceRolePermissions _ _ actor | importRoles _ actor | updateEmployee _ _ actor
  | deleteEmployee _ actor | replaceEmployeeRoles _ _ actor => actor = actorId
  | createEmployee _ => True
  | signUp _ | createSession _ _ _ | rotate _ | revokeFamily _ _ | revoke _ | dropExpired _
  | linkGoogle _ _ _ _ | unlinkGoogle _ _ _ | requestReset _ | resetPassword _ _ => False

variable {before after : AccessStore} {now : Timestamp} {command : AccessCommand}

/-- The commands that an employee issues stay in the scope of the employee. -/
theorem managed_changes {actorId : Id} (managed : command.ManagedBy actorId)
    (committed : Commits (command.execute now) before () after) :
    Relation.ReflTransGen (AccessChange (· ∈ before.effectivePermissions actorId)) before after := by
  cases command with
  | createRole input actor =>
      cases managed
      exact .single (AccessChange.createRole committed)
  | updateRole id input actor =>
      cases managed
      exact .single (AccessChange.updateRole committed)
  | deleteRole id actor =>
      cases managed
      exact .single (AccessChange.deleteRole committed)
  | replaceRolePermissions id input actor =>
      cases managed
      exact .single (AccessChange.replaceRolePermissions committed)
  | importRoles rows actor => exact AccessChange.importRoles _ committed
  | createEmployee input => exact .single (AccessChange.createEmployee _ committed)
  | updateEmployee id input actor =>
      cases managed
      exact .single (AccessChange.updateEmployee committed)
  | deleteEmployee id actor =>
      cases managed
      exact .single (AccessChange.deleteEmployee committed)
  | replaceEmployeeRoles id input actor =>
      cases managed
      exact .single (AccessChange.replaceEmployeeRoles committed)
  | _ => cases managed

end AccessCommand

namespace AccessChange

variable {before after : AccessStore} {now : Timestamp} {result : Unit}

theorem mono {scope larger : String → Prop} (taken : AccessChange scope before after)
    (grows : ∀ key, scope key → larger key) : AccessChange larger before after := by
  cases taken with
  | besides e r p rp er => exact .besides e r p rp er
  | roleCreated role ids inserted granted within e p er =>
      exact .roleCreated role ids inserted granted
        (fun permission member active named => grows _ (within permission member active named)) e p
        er
  | roleChanged condition change keeps plain deleted r carried e p er =>
      exact .roleChanged condition change keeps plain deleted r carried e p er
  | permissionsReplaced roleId ids known granted within e r p er =>
      exact .permissionsReplaced roleId ids known granted
        (fun permission member active named => grows _ (within permission member active named)) e r
        p er
  | employeeCreated employee inserted r p rp er =>
      exact .employeeCreated employee inserted r p rp er
  | employeeChanged id condition change keeps named enabled owned e r p rp er =>
      exact .employeeChanged id condition change keeps named
        (fun row member holds active => (enabled row member holds active).imp_right
          fun within key granted => grows key (within key granted)) owned e r p rp er
  | employeeDeleted id condition change keeps named disabled owned e r p rp er =>
      exact .employeeDeleted id condition change keeps named disabled owned e r p rp er
  | rolesReplaced id ids known present assigned within owned e r p rp =>
      exact .rolesReplaced id ids known present assigned
        (fun role member active named key carries =>
          grows key (within role member active named key carries)) owned e r p rp
  | roleAssigned id role known present assigned within e r p rp =>
      exact .roleAssigned id role known present assigned
        (fun key carries => grows key (within key carries)) e r p rp

theorem createSession {employeeId : Id} {email : String} {proof : SignInProof}
    (scope : String → Prop)
    (committed : Commits (AuthSessionService.createSession employeeId email proof now) before
      result after) : AccessChange scope before after := by
  simp only [AuthSessionService.createSession, sign, commits_bind, AccessStore.commits_freshId,
    commits_modify, commits_findFirstOrFail, commits_create] at committed
  obtain ⟨_, _, ⟨rfl, rfl⟩, _, _, ⟨rfl, rfl⟩, _, _, rfl, _, _, ⟨-, rfl⟩, sessions, -, rfl⟩ :=
    committed
  exact .besides rfl rfl rfl rfl rfl

theorem rotate {token : RefreshToken} {answer : Option RefreshToken} (scope : String → Prop)
    (committed : Commits (AuthSessionService.rotate token now) before answer after) :
    AccessChange scope before after := by
  simp only [AuthSessionService.rotate, commits_bind, commits_get, commits_require,
    commits_findUnique] at committed
  obtain ⟨_, _, ⟨rfl, rfl⟩, _, _, ⟨-, rfl⟩, current, store, ⟨-, rfl⟩, rotated⟩ := committed
  split at rotated
  · simp only [commits_bind, AccessStore.commits_freshId, commits_updateMany] at rotated
    obtain ⟨_, _, ⟨rfl, rfl⟩, count, _, ⟨-, rfl⟩, created⟩ := rotated
    split at created
    · simp only [commits_bind, sign, commits_modify, commits_create, commits_pure] at created
      obtain ⟨_, _, rfl, _, _, ⟨sessions, -, rfl⟩, -, rfl⟩ := created
      exact .besides rfl rfl rfl rfl rfl
    · obtain ⟨-, rfl⟩ := commits_pure.mp created
      exact .besides rfl rfl rfl rfl rfl
  · obtain ⟨-, rfl⟩ := commits_pure.mp rotated
    exact .besides rfl rfl rfl rfl rfl

theorem revokeFamily {employeeId familyId : Id} {reason : SessionRevokeReason}
    (scope : String → Prop)
    (committed : Commits (AuthSessionService.revokeFamily employeeId familyId reason now) before
      result after) : AccessChange scope before after := by
  simp only [AuthSessionService.revokeFamily, commits_bind, commits_updateMany,
    commits_pure] at committed
  obtain ⟨_, _, ⟨-, rfl⟩, -, rfl⟩ := committed
  exact .besides rfl rfl rfl rfl rfl

theorem revoke {token : RefreshToken} (scope : String → Prop)
    (committed : Commits (AuthSessionService.revoke token now) before result after) :
    AccessChange scope before after := by
  simp only [AuthSessionService.revoke, commits_bind, commits_get] at committed
  obtain ⟨_, _, ⟨rfl, rfl⟩, logout⟩ := committed
  rcases commits_when.mp logout with ⟨-, logout⟩ | ⟨-, rfl⟩
  · simp only [commits_bind, commits_findFirst] at logout
    obtain ⟨_, _, ⟨-, rfl⟩, ending⟩ := logout
    rcases commits_whenSome.mp ending with ⟨session, -, ending⟩ | ⟨-, rfl⟩
    · exact revokeFamily scope ending
    · exact .besides rfl rfl rfl rfl rfl
  · exact .besides rfl rfl rfl rfl rfl

theorem dropExpired {batch : Id → Bool} (scope : String → Prop)
    (committed : Commits (AuthSessionService.dropExpired batch now) before result after) :
    AccessChange scope before after := by
  simp only [AuthSessionService.dropExpired, commits_bind, commits_deleteMany,
    commits_pure] at committed
  obtain ⟨_, _, ⟨-, rfl⟩, -, rfl⟩ := committed
  exact .besides rfl rfl rfl rfl rfl

theorem linkGoogle {employeeId : Id} {email password subject : String} (scope : String → Prop)
    (committed : Commits (AuthService.linkGoogle employeeId email password subject now) before
      result after) : AccessChange scope before after := by
  simp only [AuthService.linkGoogle, commits_bind, commits_findFirst, commits_require] at committed
  obtain ⟨_, _, ⟨-, rfl⟩, _, _, ⟨-, rfl⟩, written⟩ := committed
  obtain ⟨-, rfl⟩ := commits_updateExpecting.mp written
  refine employeeTouched scope employeeId (by intro; rfl) (by intro; rfl) rfl ?_ rfl rfl
    rfl rfl
  intro row holds
  exact of_decide_eq_true (Bool.and_eq_true_iff.mp holds).1

theorem unlinkGoogle {employeeId : Id} {password subject : String} (scope : String → Prop)
    (committed : Commits (AuthService.unlinkGoogle employeeId password subject now) before result
      after) : AccessChange scope before after := by
  simp only [AuthService.unlinkGoogle, commits_bind] at committed
  obtain ⟨_, middle, written, revoked⟩ := committed
  obtain ⟨employees, -, roles, permissions, rolePermissions, employeeRoles⟩ :=
    revokeSessions revoked
  obtain ⟨-, rfl⟩ := commits_updateExpecting.mp written
  refine employeeTouched scope employeeId (by intro; rfl) (by intro; rfl) employees ?_
    roles permissions rolePermissions employeeRoles
  intro row holds
  exact of_decide_eq_true (Bool.and_eq_true_iff.mp holds).1

theorem requestReset {employeeId : Id} (scope : String → Prop)
    (committed : Commits (PasswordResetService.requestReset employeeId now) before result after) :
    AccessChange scope before after := by
  simp only [PasswordResetService.requestReset, commits_bind, commits_findFirstOrFail,
    AccessStore.commits_freshId, commits_create] at committed
  obtain ⟨_, _, ⟨-, rfl⟩, _, _, ⟨rfl, rfl⟩, _, middle, used, tokens, -, rfl⟩ := committed
  obtain ⟨employees, -, roles, permissions, rolePermissions, employeeRoles⟩ := useResetTokens used
  exact .besides employees roles permissions rolePermissions employeeRoles

theorem resetPassword {tokenHash : Id} {passwordHash : String} (scope : String → Prop)
    (committed : Commits (PasswordResetService.resetPassword tokenHash passwordHash now) before
      result after) : AccessChange scope before after := by
  simp only [PasswordResetService.resetPassword, commits_bind, commits_get,
    commits_findFirstOrFail] at committed
  obtain ⟨_, _, ⟨rfl, rfl⟩, record, _, ⟨-, rfl⟩, _, _, consumed, _, middle, written, revoked⟩ :=
    committed
  obtain ⟨-, rfl⟩ := commits_updateExpecting.mp consumed
  obtain ⟨employees, -, roles, permissions, rolePermissions, employeeRoles⟩ :=
    revokeSessions revoked
  obtain ⟨-, rfl⟩ := commits_updateExpecting.mp written
  refine employeeTouched scope record.employeeId (by intro; rfl) (by intro; rfl) employees
    ?_ roles permissions rolePermissions employeeRoles
  intro row holds
  exact of_decide_eq_true (Bool.and_eq_true_iff.mp holds).1

end AccessChange

namespace AccessStore

/-- A command commits, or the master data changes: a permission takes its grants with it when it
is deleted. -/
inductive Step (before : AccessStore) : AccessStore → Prop where
  | commit {after : AccessStore} (command : AccessCommand) (now : Timestamp)
      (committed : Commits (command.execute now) before () after) : Step before after
  | administer (positions : Table Position.id) (permissions : Table Permission.id)
      (dropped : Id → Bool) :
      Step before { before with
        positions, permissions
        rolePermissions := before.rolePermissions.delete fun row => dropped row.permissionId }

variable {before after : AccessStore} {now : Timestamp} {command : AccessCommand}

theorem commit_changes (committed : Commits (command.execute now) before () after) :
    Relation.ReflTransGen (AccessChange fun _ => True) before after := by
  have widened (actorId : Id) (managed : command.ManagedBy actorId) :
      Relation.ReflTransGen (AccessChange fun _ => True) before after := by
    have grows : AccessChange (· ∈ before.effectivePermissions actorId) ≤
        AccessChange fun _ => True := fun _ _ taken => taken.mono fun _ _ => trivial
    exact Relation.ReflTransGen.mono grows _ _ (AccessCommand.managed_changes managed committed)
  cases command with
  | createRole _ actorId | updateRole _ _ actorId | deleteRole _ actorId
  | replaceRolePermissions _ _ actorId | importRoles _ actorId | updateEmployee _ _ actorId
  | deleteEmployee _ actorId | replaceEmployeeRoles _ _ actorId => exact widened actorId rfl
  | createEmployee => exact widened 0 trivial
  | signUp input =>
      simp only [AccessCommand.execute, commits_bind, commits_pure] at committed
      obtain ⟨_, _, signedUp, -, rfl⟩ := committed
      exact AccessChange.signUp signedUp
  | createSession => exact .single (AccessChange.createSession _ committed)
  | rotate token =>
      simp only [AccessCommand.execute, commits_bind, commits_pure] at committed
      obtain ⟨_, _, rotated, -, rfl⟩ := committed
      exact .single (AccessChange.rotate _ rotated)
  | revokeFamily => exact .single (AccessChange.revokeFamily _ committed)
  | revoke => exact .single (AccessChange.revoke _ committed)
  | dropExpired => exact .single (AccessChange.dropExpired _ committed)
  | linkGoogle => exact .single (AccessChange.linkGoogle _ committed)
  | unlinkGoogle => exact .single (AccessChange.unlinkGoogle _ committed)
  | requestReset => exact .single (AccessChange.requestReset _ committed)
  | resetPassword => exact .single (AccessChange.resetPassword _ committed)

/-- The owner 0 and the employee 1, a waiter role, and a permission that the owner role carries
together with the right to assign roles. -/
def sample : AccessStore where
  employees := ⟨[
    { id := 0, email := "owner@shop", username := "owner", password := "a", googleSubject := none,
      isActive := true, updatedAt := 0, deletedAt := none, positionId := 0 },
    { id := 1, email := "waiter@shop", username := "waiter", password := "b",
      googleSubject := none, isActive := true, updatedAt := 0, deletedAt := none,
      positionId := 0 }], by decide⟩
  positions := ⟨[{ id := 0, name := "Staff", deletedAt := none }], by decide⟩
  roles := ⟨[
    { id := 0, name := "OWNER", description := none, isSystemRole := true, updatedAt := 0,
      deletedAt := none },
    { id := 1, name := "WAITER", description := none, isSystemRole := true, updatedAt := 0,
      deletedAt := none }], by decide⟩
  permissions := ⟨[
    { id := 0, key := PermissionKeys.employeeRolesUpdate, deletedAt := none },
    { id := 1, key := "/orders_read", deletedAt := none }], by decide⟩
  rolePermissions := ⟨[⟨0, 0⟩, ⟨0, 1⟩, ⟨1, 1⟩], by decide⟩
  employeeRoles := ⟨[⟨0, 0⟩], by decide⟩
  sessions := .empty
  resetTokens := .empty
  signed := []
  nextId := 2

end AccessStore

end CoffeeShop
