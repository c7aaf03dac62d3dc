import CoffeeShop.Library.Statement
import CoffeeShop.Store.Basic

/-!
Tables of the authentication and the authorization.
-/

namespace CoffeeShop

open Transaction

/-- `Employee`, with the columns that decide who may sign in and what they may do. -/
structure EmployeeAccount where
  id : Id
  email : String
  username : String
  /-- The hash. -/
  password : String
  googleSubject : Option String
  isActive : Bool
  updatedAt : Timestamp
  deletedAt : Option Timestamp
  positionId : Id

theorem EmployeeAccount.id_withPassword (password : String) (now : Timestamp)
    (employee : EmployeeAccount) :
    { employee with password, updatedAt := now }.id = employee.id := rfl

/-- `isActive: true, deletedAt: null`. -/
def EmployeeAccount.isEnabled (employee : EmployeeAccount) : Bool :=
  employee.isActive && employee.deletedAt.isNone

structure Position where
  id : Id
  name : String
  deletedAt : Option Timestamp

structure Role where
  id : Id
  name : String
  description : Option String
  isSystemRole : Bool
  updatedAt : Timestamp
  deletedAt : Option Timestamp

structure Permission where
  id : Id
  key : String
  deletedAt : Option Timestamp

structure RolePermission where
  roleId : Id
  permissionId : Id

def RolePermission.key (row : RolePermission) : Id × Id := (row.roleId, row.permissionId)

structure EmployeeRole where
  employeeId : Id
  roleId : Id

def EmployeeRole.key (row : EmployeeRole) : Id × Id := (row.employeeId, row.roleId)

/-- The payload of a refresh token.  A token is signed once for each session, so the payload
stands for the token, and as hashes do not collide, for its hash. -/
structure RefreshToken where
  sub : Id
  email : String
  sid : Id
  familyId : Id
  /-- In seconds since the epoch. -/
  exp : Nat
  deriving DecidableEq

inductive SessionRevokeReason where
  | logout
  | refreshRotated
  | refreshReuse
  | passwordReset
  | employeeDisabled
  | credentialsChanged
  | employeeDeleted
  | googleUnlinked
  deriving DecidableEq, Repr

structure AuthSession where
  id : Id
  familyId : Id
  employeeId : Id
  refreshTokenHash : RefreshToken
  expiresAt : Timestamp
  lastUsedAt : Option Timestamp
  revokedAt : Option Timestamp
  revokeReason : Option SessionRevokeReason
  deriving DecidableEq

theorem AuthSession.id_revoked (now : Timestamp) (reason : SessionRevokeReason)
    (session : AuthSession) :
    { session with revokedAt := some now, revokeReason := some reason }.id = session.id := rfl

theorem AuthSession.id_rotated (now : Timestamp) (session : AuthSession) :
    { session with
      revokedAt := some now
      lastUsedAt := some now
      revokeReason := some .refreshRotated }.id = session.id := rfl

/-- `revokedAt: null, expiresAt: { gt: now }`. -/
def AuthSession.isUsable (now : Timestamp) (session : AuthSession) : Bool :=
  session.revokedAt.isNone && now < session.expiresAt

structure PasswordResetToken where
  id : Id
  /-- Derived from the id of the row, which stands for it. -/
  tokenHash : Id
  expiresAt : Timestamp
  usedAt : Option Timestamp
  employeeId : Id
  deriving DecidableEq

theorem PasswordResetToken.id_used (now : Timestamp) (token : PasswordResetToken) :
    { token with usedAt := some now }.id = token.id := rfl

structure AccessStore where
  employees : Table EmployeeAccount.id
  positions : Table Position.id
  roles : Table Role.id
  permissions : Table Permission.id
  rolePermissions : Table RolePermission.key
  employeeRoles : Table EmployeeRole.key
  sessions : Table AuthSession.id
  resetTokens : Table PasswordResetToken.id
  /-- The refresh tokens that the server has signed; no other token passes the verification. -/
  signed : List RefreshToken
  nextId : Id

@[simps] def accessEmployee : Part AccessStore (Table EmployeeAccount.id) where
  get := AccessStore.employees
  set value store := { store with employees := value }
  get_set _ _ := rfl

@[simps] def accessPosition : Part AccessStore (Table Position.id) where
  get := AccessStore.positions
  set value store := { store with positions := value }
  get_set _ _ := rfl

@[simps] def accessRole : Part AccessStore (Table Role.id) where
  get := AccessStore.roles
  set value store := { store with roles := value }
  get_set _ _ := rfl

@[simps] def accessPermission : Part AccessStore (Table Permission.id) where
  get := AccessStore.permissions
  set value store := { store with permissions := value }
  get_set _ _ := rfl

@[simps] def rolePermission : Part AccessStore (Table RolePermission.key) where
  get := AccessStore.rolePermissions
  set value store := { store with rolePermissions := value }
  get_set _ _ := rfl

@[simps] def employeeRole : Part AccessStore (Table EmployeeRole.key) where
  get := AccessStore.employeeRoles
  set value store := { store with employeeRoles := value }
  get_set _ _ := rfl

@[simps] def authSession : Part AccessStore (Table AuthSession.id) where
  get := AccessStore.sessions
  set value store := { store with sessions := value }
  get_set _ _ := rfl

@[simps] def passwordResetToken : Part AccessStore (Table PasswordResetToken.id) where
  get := AccessStore.resetTokens
  set value store := { store with resetTokens := value }
  get_set _ _ := rfl

namespace AccessStore

/-- The roles of the employee that are not deleted. -/
def rolesOf (store : AccessStore) (employeeId : Id) : List Role :=
  (store.employeeRoles.select (·.employeeId = employeeId)).filterMap fun row =>
    (store.roles.find? row.roleId).filter (·.deletedAt.isNone)

/-- The permissions of the role that are not deleted. -/
def permissionsOf (store : AccessStore) (roleId : Id) : List Permission :=
  (store.rolePermissions.select (·.roleId = roleId)).filterMap fun row =>
    (store.permissions.find? row.permissionId).filter (·.deletedAt.isNone)

/-- The permission keys that the roles of the employee carry. -/
def grantedKeys (store : AccessStore) (employeeId : Id) : List String :=
  (store.rolesOf employeeId).flatMap fun role => (store.permissionsOf role.id).map (·.key)

/-- What the employee may do: nothing while the account is disabled. -/
def effectivePermissions (store : AccessStore) (employeeId : Id) : List String :=
  if (store.employees.find? employeeId).any (·.isEnabled) then store.grantedKeys employeeId else []

/-- `randomUUID()`, or the default of an `id` column. -/
def freshId : Tx AccessStore Failure Id := do
  let store ← get
  modify fun current => { current with nextId := store.nextId + 1 }
  pure store.nextId

@[simp] theorem commits_freshId {before after : AccessStore} {id : Id} :
    Commits freshId before id after ↔
      id = before.nextId ∧ after = { before with nextId := before.nextId + 1 } := by
  simp [freshId, and_comm]

end AccessStore

end CoffeeShop
