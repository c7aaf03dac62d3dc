import CoffeeShop.Access.Authorization

/-!
The commands of the employees service, and the sign-up.
-/

namespace CoffeeShop

open Transaction AuthorizationService AccessStore

structure CreateEmployeeInput where
  email : String
  username : String
  /-- The hash. -/
  password : String
  isActive : Bool
  positionId : Id

structure UpdateEmployeeInput where
  email : Option String
  username : Option String
  /-- The hash. -/
  password : Option String
  isActive : Option Bool
  positionId : Option Id
  expectedUpdatedAt : Timestamp

structure ReplaceEmployeeRolesInput where
  roleIds : List Id
  expectedRoleIds : Option (List Id)

/-- `isSystemRole`, named `SYSTEM_ROLE_NAMES.OWNER`. -/
def Role.isOwner (role : Role) : Bool := role.isSystemRole && role.name = "OWNER"

namespace EmployeesService

def selfAccessChange : Failure :=
  .forbidden "Cannot change your own roles or disable your own account"

def userNotFound : Failure := .notFound "User not found"

def assertActivePosition (id : Id) : Tx AccessStore Failure Unit := do
  let _ ← findFirstOrFail accessPosition
    (fun position => position.id = id && position.deletedAt.isNone)
    (.notFound "Position not found")

/-- The unique columns of `Employee`. -/
def assertUnique (employee : EmployeeAccount) : Tx AccessStore Failure Unit := do
  let other ← findFirst accessEmployee fun other => other.id ≠ employee.id &&
    (other.email = employee.email || other.username = employee.username)
  require (other.isNone) (.constraint "Employee_email_key, Employee_username_key")

def insertEmployee (input : CreateEmployeeInput) (id : Id) (now : Timestamp) :
    Tx AccessStore Failure Unit := do
  let employee : EmployeeAccount := {
    id
    email := input.email
    username := input.username
    password := input.password
    googleSubject := none
    isActive := input.isActive
    updatedAt := now
    deletedAt := none
    positionId := input.positionId }
  assertUnique employee
  create accessEmployee employee (.constraint "Employee_pkey")

def createEmployee (input : CreateEmployeeInput) (now : Timestamp) :
    Tx AccessStore Failure Unit := do
  assertActivePosition input.positionId
  let id ← freshId
  insertEmployee input id now

/-- The transaction of `signUp`, whose employee gets the default position and role. -/
def signUp (input : CreateEmployeeInput) (now : Timestamp) : Tx AccessStore Failure Id := do
  let defaultPosition ← findFirstOrFail accessPosition
    (fun position => position.name = "Staff" && position.deletedAt.isNone)
    (.internalServerError "Default position not found")
  let id ← freshId
  insertEmployee { input with positionId := defaultPosition.id, isActive := true } id now
  let defaultRole ← findFirst accessRole
    fun role => role.name = "WAITER" && role.deletedAt.isNone
  whenSome defaultRole fun role =>
    create employeeRole { employeeId := id, roleId := role.id } (.constraint "EmployeeRole_pkey")
  pure id

structure ManagedEmployee where
  employee : EmployeeAccount
  roles : List Role

def loadManagedEmployee (id : Id) (actor : AuthorizationContext) :
    Tx AccessStore Failure ManagedEmployee := do
  let employee ← findFirstOrFail accessEmployee
    (fun employee => employee.id = id && employee.deletedAt.isNone) userNotFound
  let store ← get
  assertCanGrantPermissions actor (store.grantedKeys id)
  pure { employee, roles := store.rolesOf id }

/-- Another active employee holds the owner role. -/
def otherOwner (store : AccessStore) (id : Id) (other : EmployeeAccount) : Bool :=
  other.id ≠ id && other.isEnabled && (store.rolesOf other.id).any (·.isOwner)

def assertOwnerRemains (managed : ManagedEmployee) : Tx AccessStore Failure Unit := do
  let store ← get
  require (managed.employee.isActive = false ∨ managed.roles.any (·.isOwner) = false ∨
    store.employees.count (otherOwner store managed.employee.id) ≠ 0)
    (.forbidden "At least one active owner must remain")

def revokeSessions (employeeId : Id) (reason : SessionRevokeReason) (now : Timestamp) :
    Tx AccessStore Failure Unit := do
  let _ ← updateMany authSession
    (fun session => session.employeeId = employeeId && session.revokedAt.isNone)
    fun session => { session with revokedAt := some now, revokeReason := some reason }

def useResetTokens (employeeId : Id) (now : Timestamp) : Tx AccessStore Failure Unit := do
  let _ ← updateMany passwordResetToken
    (fun token => token.employeeId = employeeId && token.usedAt.isNone)
    fun token => { token with usedAt := some now }

def updateEmployee (id : Id) (input : UpdateEmployeeInput) (actorId : Id) (now : Timestamp) :
    Tx AccessStore Failure Unit := do
  let actor ← getFreshAuthorizationContext actorId
  assertCanGrantPermissions actor [PermissionKeys.employeesUpdate]
  let before ← loadManagedEmployee id actor
  require (before.employee.updatedAt = input.expectedUpdatedAt)
    (.conflictWithCode "EMPLOYEE_PROFILE_CHANGED"
      "Employee profile changed. Reload before saving.")
  whenSome input.positionId assertActivePosition
  when (input.isActive = some false) (do
    require (id ≠ actorId) selfAccessChange
    assertOwnerRemains before)
  let change (row : EmployeeAccount) : EmployeeAccount := { row with
    email := input.email.getD row.email
    username := input.username.getD row.username
    password := input.password.getD row.password
    isActive := input.isActive.getD row.isActive
    positionId := input.positionId.getD row.positionId
    updatedAt := max now (row.updatedAt + 1) }
  assertUnique (change before.employee)
  updateExpecting accessEmployee id
    (fun row => row.deletedAt.isNone && row.updatedAt = input.expectedUpdatedAt) change
    (.notFound "Record to update not found.")
  when (input.isActive = some false ∨ input.password.isSome ∨
      input.email.any (· ≠ before.employee.email)) (do
    revokeSessions id (if input.isActive = some false then .employeeDisabled
      else .credentialsChanged) now
    useResetTokens id now)

def deleteEmployee (id actorId : Id) (now : Timestamp) : Tx AccessStore Failure Unit := do
  let actor ← getFreshAuthorizationContext actorId
  assertCanGrantPermissions actor [PermissionKeys.employeesDelete]
  require (id ≠ actorId) selfAccessChange
  let before ← loadManagedEmployee id actor
  assertOwnerRemains before
  revokeSessions id .employeeDeleted now
  useResetTokens id now
  let _ ← deleteMany employeeRole (·.employeeId = id)
  updateExpecting accessEmployee id (fun row => row.deletedAt.isNone)
    (fun row => { row with deletedAt := some now, isActive := false, updatedAt := now })
    (.notFound "Record to update not found.")

def replaceEmployeeRoles (id : Id) (input : ReplaceEmployeeRolesInput) (actorId : Id) :
    Tx AccessStore Failure Unit := do
  require (input.roleIds.Nodup) (.badRequest "Duplicate role IDs are not allowed")
  let actor ← getFreshAuthorizationContext actorId
  assertCanGrantPermissions actor [PermissionKeys.employeeRolesUpdate]
  require (id ≠ actorId) selfAccessChange
  let managed ← loadManagedEmployee id actor
  require (managed.employee.isActive = true) (.badRequest "Employee account is inactive")
  let roles ← findMany accessRole fun role =>
    role.id ∈ input.roleIds && role.deletedAt.isNone
  require (roles.length = input.roleIds.length) (.badRequest "One or more role IDs are invalid")
  let store ← get
  assertCanGrantPermissions actor
    (roles.flatMap fun role => (store.permissionsOf role.id).map (·.key))
  let beforeIds := managed.roles.map (·.id)
  when (¬(beforeIds.length = input.roleIds.length ∧
      ∀ roleId ∈ beforeIds, roleId ∈ input.roleIds)) (do
    require (isReviewed input.expectedRoleIds beforeIds) authorizationChanged
    when (roles.any (·.isOwner) = false) (assertOwnerRemains managed)
    let _ ← deleteMany employeeRole (·.employeeId = id)
    createMany employeeRole
      (input.roleIds.map fun roleId => { employeeId := id, roleId })
      (.constraint "EmployeeRole_pkey"))

end EmployeesService

end CoffeeShop
