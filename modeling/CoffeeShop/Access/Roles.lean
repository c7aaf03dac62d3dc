import CoffeeShop.Access.Authorization

/-!
The commands of the roles service.
-/

namespace CoffeeShop

open Transaction AuthorizationService AccessStore

/-- `RoleMetadataInputSchema`. -/
structure RoleMetadata where
  name : String
  description : Option String

structure CreateRoleInput extends RoleMetadata where
  templateRoleId : Option Id
  expectedPermissionIds : Option (List Id)

structure UpdateRoleInput where
  name : Option String
  /-- The inner `none` is `null`. -/
  description : Option (Option String)
  expectedUpdatedAt : Timestamp

structure ReplaceRolePermissionsInput where
  permissionIds : List Id
  expectedPermissionIds : Option (List Id)

namespace RolesService

def roleNotFound : Failure := .notFound "Role not found"

def roleNameExists : Failure := .conflict "Role name already exists"

def selfAccessChange : Failure :=
  .forbidden "Cannot change your own roles or disable your own account"

def systemRoleCannotBeModified : Failure := .badRequest "System role cannot be modified"

/-- `findUnique` with `deletedAt: null`. -/
def findRole (id : Id) : Tx AccessStore Failure Role :=
  findFirstOrFail accessRole (fun role => role.id = id && role.deletedAt.isNone) roleNotFound

def ensureRoleNameAvailable (name : String) (excludeId : Option Id) :
    Tx AccessStore Failure Unit := do
  let existing ← findFirst accessRole fun role =>
    role.name = name && role.deletedAt.isNone && excludeId.all (role.id ≠ ·)
  require (existing.isNone) roleNameExists

/-- `role_name_active_unique`. -/
def isNameTaken (name : String) (role : Role) : Bool :=
  role.name = name && role.deletedAt.isNone

def newRole (id : Id) (metadata : RoleMetadata) (now : Timestamp) : Role where
  id
  name := metadata.name
  description := metadata.description
  isSystemRole := false
  updatedAt := now
  deletedAt := none

def createRole (input : CreateRoleInput) (actorId : Id) (now : Timestamp) :
    Tx AccessStore Failure Unit := do
  let actor ← getFreshAuthorizationContext actorId
  assertCanGrantPermissions actor
    (PermissionKeys.rolesCreate ::
      if input.templateRoleId.isSome then
        [PermissionKeys.rolesRead, PermissionKeys.rolePermissionsRead,
          PermissionKeys.rolePermissionsUpdate]
      else [])
  ensureRoleNameAvailable input.name none
  let permissions ← ifSome input.templateRoleId
    (fun templateRoleId => do
      let template ← findRole templateRoleId
      let store ← get
      pure (store.permissionsOf template.id))
    (pure [])
  assertCanGrantPermissions actor (permissions.map (·.key))
  require (input.templateRoleId.isNone ∨
    isReviewed input.expectedPermissionIds (permissions.map (·.id))) authorizationChanged
  let id ← freshId
  create accessRole (newRole id input.toRoleMetadata now) roleNameExists
  createMany rolePermission
    (permissions.map fun permission => { roleId := id, permissionId := permission.id })
    (.constraint "RolePermission_pkey")

def updateRole (id : Id) (input : UpdateRoleInput) (actorId : Id) (now : Timestamp) :
    Tx AccessStore Failure Unit := do
  let actor ← getFreshAuthorizationContext actorId
  assertCanGrantPermissions actor [PermissionKeys.rolesUpdate]
  let role ← findRole id
  require (role.isSystemRole = false) systemRoleCannotBeModified
  require (role.updatedAt = input.expectedUpdatedAt)
    (.conflictWithCode "ROLE_CHANGED" "Role metadata changed. Reload and review before saving.")
  whenSome input.name fun name => ensureRoleNameAvailable name (some id)
  when (¬(input.name.all (· = role.name) ∧ input.description.all (· = role.description)))
    (updateExpecting accessRole id
      (fun row => row.deletedAt.isNone && row.updatedAt = input.expectedUpdatedAt)
      (fun row => { row with
        name := input.name.getD row.name
        description := input.description.getD row.description
        updatedAt := max now (role.updatedAt + 1) })
      (.notFound "Record to update not found."))

structure ManagedRole where
  role : Role
  permissions : List Permission
  actor : AuthorizationContext

def loadManagedRole (id actorId : Id) (requiredPermission : String) :
    Tx AccessStore Failure ManagedRole := do
  let actor ← getFreshAuthorizationContext actorId
  assertCanGrantPermissions actor [requiredPermission]
  let role ← findRole id
  let store ← get
  assertCanGrantPermissions actor ((store.permissionsOf id).map (·.key))
  let ownAssignment ← findUnique employeeRole (actorId, id)
  require (ownAssignment.isNone) selfAccessChange
  pure { role, permissions := store.permissionsOf id, actor }

def deleteRole (id actorId : Id) (now : Timestamp) : Tx AccessStore Failure Unit := do
  let managed ← loadManagedRole id actorId PermissionKeys.rolesDelete
  require (managed.role.isSystemRole = false) (.badRequest "System role cannot be deleted")
  let assignment ← findFirst employeeRole (·.roleId = id)
  require (assignment.isNone)
    (.conflictWithCode "ROLE_IN_USE" "Reassign all employees before deleting this role.")
  let _ ← deleteMany rolePermission (·.roleId = id)
  updateExpecting accessRole id (fun role => role.deletedAt.isNone)
    (fun role => { role with deletedAt := some now, updatedAt := now })
    (.notFound "Record to update not found.")

def replaceRolePermissions (id : Id) (input : ReplaceRolePermissionsInput) (actorId : Id) :
    Tx AccessStore Failure Unit := do
  require (input.permissionIds.Nodup) (.badRequest "Duplicate permission IDs are not allowed")
  let managed ← loadManagedRole id actorId PermissionKeys.rolePermissionsUpdate
  require (managed.role.isSystemRole = false) systemRoleCannotBeModified
  let permissions ← findMany accessPermission fun permission =>
    permission.id ∈ input.permissionIds && permission.deletedAt.isNone
  require (permissions.length = input.permissionIds.length)
    (.badRequest "One or more permission IDs are invalid")
  assertCanGrantPermissions managed.actor (permissions.map (·.key))
  let beforeIds := managed.permissions.map (·.id)
  when (¬(beforeIds.length = input.permissionIds.length ∧
      ∀ permissionId ∈ beforeIds, permissionId ∈ input.permissionIds)) (do
    require (isReviewed input.expectedPermissionIds beforeIds) authorizationChanged
    let _ ← deleteMany rolePermission (·.roleId = id)
    createMany rolePermission
      (input.permissionIds.map fun permissionId => { roleId := id, permissionId })
      (.constraint "RolePermission_pkey"))

/-- `createManyAndReturn` with `skipDuplicates`. -/
def insertRoles : List RoleMetadata → Timestamp → Tx AccessStore Failure Unit
  | [], _ => pure ()
  | metadata :: rest, now => do
      let duplicate ← findFirst accessRole (isNameTaken metadata.name)
      when (duplicate.isNone) (do
        let id ← freshId
        create accessRole (newRole id metadata now) (.constraint "Role_pkey"))
      insertRoles rest now

/-- The transaction of `importRoles`, on the parsed rows of the sheet. -/
def importRoles (rows : List RoleMetadata) (actorId : Id) (now : Timestamp) :
    Tx AccessStore Failure Unit := do
  let actor ← getFreshAuthorizationContext actorId
  assertCanGrantPermissions actor [PermissionKeys.rolesCreate]
  insertRoles rows now

end RolesService

end CoffeeShop
